import ClubPoints.Proofs.Judgeable

/-!
# The order of rules and players

Every rule is judged by itself and for one player at a time, and what the rules gave is sorted. Awards
that the sort cannot tell apart are of one rule, and so they are the same in every column.
-/

namespace ClubPoints

variable {rule : Rule} {rules rules' : List Rule} {r : Registry} {game : MatchFacts}
  {players players' : List PlayerFacts}

/-! ## One rule -/

namespace Rule

theorem exists_awards_of_subset (hplayers : players' ⊆ players)
    (h : ∃ awards, rule.awards r game players = .ok awards) :
    ∃ awards, rule.awards r game players' = .ok awards := by
  unfold Rule.awards at h ⊢
  cases hkind : rule.kind with
  | result => simpa only [hkind, exists_resultAwards_iff] using h
  | performance pricing =>
    simp only [hkind, exists_performanceAwards_iff] at h ⊢
    intro p hp
    exact h p (hplayers hp)
  | manual => exact ⟨[], rfl⟩
  | unclassified => simp [hkind] at h

theorem exists_awards_shuffled (hplayers : players'.Perm players) :
    (∃ awards, rule.awards r game players' = .ok awards) ↔
      ∃ awards, rule.awards r game players = .ok awards :=
  ⟨exists_awards_of_subset hplayers.symm.subset, exists_awards_of_subset hplayers.subset⟩

theorem found_awards_shuffled (hplayers : players'.Perm players) :
    (found (rule.awards r game players')).Perm (found (rule.awards r game players)) := by
  by_cases hjudged : ∃ awards, rule.awards r game players = .ok awards
  · have hjudged' := (exists_awards_shuffled hplayers).mpr hjudged
    obtain ⟨awards, h⟩ := hjudged
    obtain ⟨awards', h'⟩ := hjudged'
    rw [h, h', found_ok, found_ok, awards_eq_deserved h, awards_eq_deserved h']
    exact (hplayers.filter _).map _
  · have hstopped {ps : List PlayerFacts} (hs : ¬ ∃ awards, rule.awards r game ps = .ok awards) :
        found (rule.awards r game ps) = [] := by
      cases h : rule.awards r game ps with
      | error fault => rfl
      | ok awards => exact absurd ⟨awards, h⟩ hs
    rw [hstopped hjudged, hstopped fun h => hjudged ((exists_awards_shuffled hplayers).mp h)]

theorem ruleName_of_found {a : Award} (h : a ∈ found (rule.awards r game players)) :
    a.ruleName = rule.name := by
  cases hs : rule.awards r game players with
  | error fault => rw [hs] at h; cases h
  | ok awards =>
    rw [hs, found_ok, awards_eq_deserved hs] at h
    obtain ⟨p, -, rfl⟩ := List.mem_map.mp h
    rfl

end Rule

/-! ## All rules -/

namespace Award

theorem exists_all_shuffled (hrules : rules'.Perm rules) (hplayers : players'.Perm players) :
    (∃ awards, Award.all rules' r game players' = .ok awards) ↔
      ∃ awards, Award.all rules r game players = .ok awards := by
  rw [exists_all_iff, exists_all_iff]
  simp only [hrules.mem_iff, Rule.exists_awards_shuffled hplayers]

theorem all_shuffled_perm {awards awards' : List Award} (hrules : rules'.Perm rules)
    (hplayers : players'.Perm players) (h' : Award.all rules' r game players' = .ok awards')
    (h : Award.all rules r game players = .ok awards) : awards'.Perm awards := by
  calc awards'.Perm ((rules'.filter Rule.isActive).flatMap fun rule =>
        found (rule.awards r game players')) := all_eq_ok h'
    List.Perm _ ((rules'.filter Rule.isActive).flatMap fun rule =>
        found (rule.awards r game players)) :=
      List.Perm.flatMap_left _ fun rule _ => Rule.found_awards_shuffled hplayers
    List.Perm _ ((rules.filter Rule.isActive).flatMap fun rule =>
        found (rule.awards r game players)) := (hrules.filter _).flatMap_right _
    List.Perm _ awards := (all_eq_ok h).symm

/-- Only the name of the rule is not looked at when awards are sorted, and it goes with the rule. -/
theorem eq_of_place {awards : List Award} (hids : (rules.map Rule.id).Nodup)
    (h : Award.all rules r game players = .ok awards) :
    ∀ a ∈ awards, ∀ b ∈ awards, a.place = b.place → a = b := by
  have hrule : ∀ a ∈ awards, ∃ rule ∈ rules, a.ruleId = rule.id ∧ a.ruleName = rule.name := by
    intro a ha
    have hfound := (all_eq_ok h).subset ha
    obtain ⟨rule, hrule, ha⟩ := List.mem_flatMap.mp hfound
    exact ⟨rule, (List.mem_filter.mp hrule).1, Rule.mem_found_awards ha, Rule.ruleName_of_found ha⟩
  intro a ha b hb hplace
  obtain ⟨rule, hmem, hid, hname⟩ := hrule a ha
  obtain ⟨rule', hmem', hid', hname'⟩ := hrule b hb
  simp only [place, toLex_inj, Prod.mk.injEq] at hplace
  obtain ⟨hplayer, hsame, hpoints, hreason⟩ := hplace
  have hrules : rule = rule' := by
    apply List.inj_on_of_nodup_map hids hmem hmem'
    rw [← hid, ← hid', hsame]
  cases a
  cases b
  simp_all

/-- Rules with different ids, in whatever order they and the players come, either cannot be judged
or give the same awards in the same order. -/
theorem all_shuffled (hids : (rules.map Rule.id).Nodup) (hrules : rules'.Perm rules)
    (hplayers : players'.Perm players) :
    ((∃ fault, Award.all rules' r game players' = .error fault) ↔
      ∃ fault, Award.all rules r game players = .error fault) ∧
    ∀ awards, Award.all rules' r game players' = .ok awards ↔
      Award.all rules r game players = .ok awards := by
  have hjudged : (∃ awards, Award.all rules' r game players' = .ok awards) ↔
      ∃ awards, Award.all rules r game players = .ok awards := exists_all_shuffled hrules hplayers
  cases h : Award.all rules r game players with
  | error fault =>
    cases h' : Award.all rules' r game players' with
    | error fault' => simp
    | ok awards' =>
      obtain ⟨awards, hawards⟩ := hjudged.mp ⟨awards', h'⟩
      rw [h] at hawards
      cases hawards
  | ok awards =>
    obtain ⟨awards', h'⟩ := hjudged.mpr ⟨awards, h⟩
    have hsame : awards' = awards :=
      eq_of_perm_of_injOn (all_shuffled_perm hrules hplayers h' h) (eq_of_place hids h)
        (sorted_all h') (sorted_all h)
    rw [h', hsame]
    simp

def forwardAgain : List PlayerFacts := { playerId := 7 } :: forwardAndDefender

def forwardAgainAwards : List Award := [
  ⟨7, 1, "Win", 3, "Win: goalsFor > goalsAgainst (3 > 1)"⟩,
  ⟨7, 1, "Win", 3, "Win: goalsFor > goalsAgainst (3 > 1)"⟩,
  ⟨7, 2, "Goals", 4,
    "Goals: played != position (True != FORWARD) AND goalsFor >= 1 (actual: 3)"⟩,
  ⟨8, 1, "Win", 3, "Win: goalsFor > goalsAgainst (3 > 1)"⟩]

theorem all_shuffled_winAndGoals :
    (winAndGoals.map Rule.id).Nodup ∧ winAndGoals.reverse.Perm winAndGoals ∧
      forwardAgain.reverse.Perm forwardAgain ∧
      Award.all winAndGoals.reverse {} { goalsFor := 3, goalsAgainst := 1 } forwardAgain.reverse =
        .ok forwardAgainAwards := by
  have hids : (winAndGoals.map Rule.id).Nodup := by decide
  have hrules := List.reverse_perm winAndGoals
  have hplayers := List.reverse_perm forwardAgain
  refine ⟨hids, hrules, hplayers, ((all_shuffled hids hrules hplayers).2 _).mpr ?_⟩
  have hjudged : ∀ rule ∈ winAndGoals, rule.isActive = true → ∃ awards,
      rule.awards {} { goalsFor := 3, goalsAgainst := 1 } forwardAgain = .ok awards := by
    intro rule hrule _
    apply exists_eq_ok
    simp only [winAndGoals, List.mem_cons, List.not_mem_nil, or_false] at hrule
    rcases hrule with rfl | rfl | rfl | rfl <;> decide +kernel
  obtain ⟨awards, h⟩ := exists_all_iff.mpr hjudged
  have hperm : forwardAgainAwards.Perm awards :=
    (List.isPerm_iff.mp (by decide +kernel)).trans (all_eq_ok h).symm
  have hsorted : forwardAgainAwards.Pairwise fun a b => a.place ≤ b.place := by decide +kernel
  rw [h, eq_of_perm_of_injOn hperm (eq_of_place hids h) hsorted (sorted_all h)]

end Award

end ClubPoints
