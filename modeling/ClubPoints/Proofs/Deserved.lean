import ClubPoints.Proofs.Judging
import ClubPoints.Proofs.Ledger

/-!
# Awards are what the rules deserve

What a rule gives to the players of a match, said of one player at a time: whom it means, whether the
player has earned it, how many points it is worth and on what grounds (`Award.all_perm_deserved`).
-/

namespace ClubPoints

variable {rule : Rule} {r : Registry} {game : MatchFacts} {players : List PlayerFacts}
  {p : PlayerFacts} {s : Situation}

/-! ## What a rule deserves -/

def Target.Means (t : Target) (p : PlayerFacts) : Prop :=
  t.scope = .allPlayers ∨ (t.scope = .byPosition ∧ p.position ∈ t.positions) ∨
    (t.scope = .individual ∧ t.playerId = some p.playerId)

instance (t : Target) (p : PlayerFacts) : Decidable (t.Means p) :=
  inferInstanceAs (Decidable (_ ∨ _))

def Scope.facts (scope : Scope) (game : MatchFacts) (p : PlayerFacts) : String → Value :=
  match scope with
  | .ofMatch => game.fact
  | .ofPlayer => p.fact

theorem Situation.facts?_player (scope : Scope) :
    Situation.facts? { registry := r, game, player := some p } scope =
      some (scope.facts game p) := by
  cases scope <;> rfl

/-- The whole number that a value reads as, if it reads as one: of a real number the quotient of its
units rounded toward zero, and of a text the numeral that it writes. -/
def Value.wholeReading : Value → Option Int
  | .truth b => some (if b then 1 else 0)
  | .whole n => some n
  | .real (.finite negative units _) => some (Int.tdiv (Binary64.signed negative units) unitsPerOne)
  | .text s => (Numeral.whole s).toOption
  | _ => none

namespace Rule

/-- Whether a player has earned the points of the rule. A result is earned by the match alone. -/
def isEarned (rule : Rule) (r : Registry) (game : MatchFacts) (p : PlayerFacts) : Bool :=
  match rule.kind with
  | .result => rule.conditions.all fun c => c.scope == .ofMatch && c.isMet r game.fact
  | .performance _ => rule.conditions.all fun c => c.isMet r (c.scope.facts game p)
  | .manual | .unclassified => false

def worth (rule : Rule) (r : Registry) (game : MatchFacts) (p : PlayerFacts) : Int :=
  match rule.kind with
  | .performance (.multiplied key scope) =>
    if (r.resolve? key scope).isSome then
      rule.points * (r.lookup key scope (scope.facts game p)).wholeReading.getD 0
    else 0
  | _ => rule.points

def grounds (rule : Rule) (r : Registry) (game : MatchFacts) (p : PlayerFacts) : String :=
  match rule.conditions.map fun c => c.wording r (c.scope.facts game p) with
  | [] => rule.name
  | words => rule.name ++ ": " ++ " AND ".intercalate words

def prize (rule : Rule) (r : Registry) (game : MatchFacts) (p : PlayerFacts) : Award where
  playerId := p.playerId
  ruleId := rule.id
  ruleName := rule.name
  points := rule.worth r game p
  reason := rule.grounds r game p

def deserved (rule : Rule) (r : Registry) (game : MatchFacts) (players : List PlayerFacts) :
    List Award :=
  (players.filter fun p => rule.isEarned r game p && decide (rule.target.Means p)).map
    (rule.prize r game)

end Rule

/-! ## Targets -/

theorem Target.covers_eq (t : Target) (p : PlayerFacts) : t.covers p = decide (t.Means p) := by
  rw [Bool.eq_iff_iff, decide_eq_true_iff, Target.Means, Target.covers]
  cases t.scope <;> simp

/-! ## Factors -/

theorem signed_div (negative : Bool) (units : Nat) :
    Binary64.signed negative (units / unitsPerOne) =
      Int.tdiv (Binary64.signed negative units) unitsPerOne := by
  cases negative with
  | false => exact Int.natCast_ediv ..
  | true =>
    change -((units / unitsPerOne : Nat) : Int) = Int.tdiv (-(units : Int)) unitsPerOne
    rw [Int.neg_tdiv]
    rfl

theorem Value.factor_eq_ok {v : Value} {n : Int} (h : v.factor = .ok n) :
    n = v.wholeReading.getD 0 := by
  unfold Value.factor at h
  cases v with
  | real x =>
    cases x with
    | nan => cases h; rfl
    | infinity negative => cases h
    | finite negative units hunits => cases h; exact signed_div negative units
  | text t =>
    rw [Value.toWhole, Value.wholeOfText] at h
    rw [Value.wholeReading]
    cases hn : Numeral.whole t with
    | ok m => rw [hn] at h; cases h; rfl
    | error fault => rw [hn] at h; cases fault <;> cases h <;> rfl
  | truth b => cases h; rfl
  | whole m => cases h; rfl
  | _ => cases h; rfl

namespace Rule

/-! ## One rule -/

theorem reason_eq_ok {reason : String} (h : rule.reason s = .ok reason)
    (hmet : ∀ c ∈ rule.conditions, c.isMetIn s = true)
    (hfacts : ∀ scope fact, s.facts? scope = some fact → fact = scope.facts s.game p) :
    reason = rule.grounds s.registry s.game p := by
  unfold Rule.reason at h
  obtain ⟨texts, htexts, h⟩ := bind_eq_ok.mp h
  have hwords : texts = rule.conditions.map fun c =>
      c.wording s.registry (c.scope.facts s.game p) := by
    replace htexts := mapM_eq_ok.mp htexts
    clear h
    generalize rule.conditions = cs at htexts hmet
    induction htexts with
    | nil => rfl
    | @cons c text cs texts hc _ ih =>
      obtain ⟨fact, hfact, hc'⟩ := (Option.any_eq_true ..).mp (hmet c List.mem_cons_self)
      have hresolves := (Bool.and_eq_true .. ▸ hc' : _ ∧ _).1
      rw [List.map_cons, ← ih fun d hd => hmet d (List.mem_cons_of_mem _ hd),
        Condition.describe_eq_ok hfact hresolves hc, hfacts _ _ hfact]
  -- no wording is empty, so none is left out
  have hall : texts.filter (· ≠ "") = texts := by
    rw [List.filter_eq_self, hwords]
    intro text htext
    obtain ⟨c, -, rfl⟩ := List.mem_map.mp htext
    simpa using c.wording_ne_empty _ _
  rw [hall, hwords] at h
  unfold Rule.grounds
  cases hshown : rule.conditions.map fun c =>
      c.wording s.registry (c.scope.facts s.game p) with
  | nil =>
    rw [hshown] at h
    exact (Except.ok.inj h).symm
  | cons first rest =>
    rw [hshown] at h
    exact (Except.ok.inj h).symm

theorem price_eq_ok {pricing : Pricing} {points : Int} (hkind : rule.kind = .performance pricing)
    (h : pricing.price rule.points { registry := r, game, player := some p } = .ok points) :
    points = rule.worth r game p := by
  unfold Rule.worth
  rw [hkind]
  cases pricing with
  | flat => cases h; rfl
  | multiplied key scope =>
    rw [Pricing.price, Situation.facts?_player] at h
    obtain ⟨factor, hfactor, rfl⟩ := map_eq_ok.mp h
    rw [Value.factor_eq_ok hfactor]
    dsimp only
    split
    · rfl
    · rename_i hresolve
      rw [Option.not_isSome_iff_eq_none] at hresolve
      rw [Registry.lookup, hresolve]
      exact Int.mul_zero _

theorem resultAwards_eq_ok {awards : List Award} (hkind : rule.kind = .result)
    (h : rule.resultAwards r game players = .ok awards) :
    awards = rule.deserved r game players := by
  have hmetIn (c : Condition) : c.isMetIn { registry := r, game, player := none } =
      (c.scope == .ofMatch && c.isMet r game.fact) := by
    unfold Condition.isMetIn
    cases c.scope <;> rfl
  unfold resultAwards at h
  obtain ⟨holds, hholds, h⟩ := bind_eq_ok.mp h
  have hmet := Condition.allHold_eq_ok hholds
  have hearned (p : PlayerFacts) : rule.isEarned r game p = holds := by
    rw [hmet, isEarned, hkind]
    exact congrArg rule.conditions.all (funext fun c => (hmetIn c).symm)
  have hchosen : (players.filter fun p => rule.isEarned r game p && decide (rule.target.Means p)) =
      if holds then rule.target.select players else [] := by
    rw [Target.select, funext rule.target.covers_eq]
    cases holds <;> simp [hearned]
  rw [deserved, hchosen]
  cases holds with
  | false => cases h; rfl
  | true =>
    obtain ⟨reason, hreason, h⟩ := bind_eq_ok.mp h
    cases h
    refine List.map_congr_left fun p _ => ?_
    have hgrounds := reason_eq_ok (p := p) hreason (List.all_eq_true.mp hmet.symm)
      fun scope fact hfact => by cases scope <;> cases hfact; rfl
    have hworth : rule.worth r game p = rule.points := by rw [worth, hkind]
    rw [award, prize, hgrounds, hworth]

theorem isEarned_of_allHold {pricing : Pricing} {b : Bool} (hkind : rule.kind = .performance pricing)
    (h : Condition.allHold { registry := r, game, player := some p } rule.conditions = .ok b) :
    rule.isEarned r game p = b := by
  rw [Condition.allHold_eq_ok h, isEarned, hkind]
  refine congrArg rule.conditions.all (funext fun c => ?_)
  rw [Condition.isMetIn, Situation.facts?_player, Option.any_some]

theorem playerAward?_eq_ok {pricing : Pricing} {o : Option Award}
    (hkind : rule.kind = .performance pricing)
    (h : rule.playerAward? pricing r game p = .ok o) :
    o = if rule.isEarned r game p then some (rule.prize r game p) else none := by
  unfold playerAward? at h
  obtain ⟨holds, hholds, h⟩ := bind_eq_ok.mp h
  have hfacts : ∀ scope fact, Situation.facts? { registry := r, game, player := some p } scope =
      some fact → fact = scope.facts game p := by
    intro scope fact hfact
    rw [Situation.facts?_player] at hfact
    exact (Option.some.inj hfact).symm
  have hmet := Condition.allHold_eq_ok hholds
  rw [isEarned_of_allHold hkind hholds]
  cases holds with
  | false => cases h; rfl
  | true =>
    obtain ⟨points, hpoints, h⟩ := bind_eq_ok.mp h
    obtain ⟨reason, hreason, h⟩ := bind_eq_ok.mp h
    cases h
    rw [award, price_eq_ok hkind hpoints,
      reason_eq_ok hreason (List.all_eq_true.mp hmet.symm) hfacts]
    rfl

theorem performanceAwards_eq_ok {pricing : Pricing} {awards : List Award}
    (hkind : rule.kind = .performance pricing)
    (h : rule.performanceAwards pricing r game players = .ok awards) :
    awards = rule.deserved r game players := by
  unfold performanceAwards at h
  obtain ⟨found, hfound, h⟩ := bind_eq_ok.mp h
  cases h
  clear h
  rw [deserved, ← List.filter_filter, ← funext rule.target.covers_eq]
  replace hfound := mapM_eq_ok.mp hfound
  change _ = ((rule.target.select players).filter _).map _
  generalize rule.target.select players = chosen at hfound
  induction hfound with
  | nil => rfl
  | @cons p o chosen found hp _ ih =>
    rw [playerAward?_eq_ok hkind hp, List.filter_cons]
    split
    · rw [List.reduceOption_cons_of_some, ih, List.map_cons]
    · rw [List.reduceOption_cons_of_none, ih]

theorem awards_eq_deserved {awards : List Award} (h : rule.awards r game players = .ok awards) :
    awards = rule.deserved r game players := by
  have hnobody (hkind : rule.kind = .manual) : rule.deserved r game players = [] := by
    simp [deserved, isEarned, hkind]
  unfold Rule.awards at h
  split at h
  · rename_i hkind; exact resultAwards_eq_ok hkind h
  · rename_i hkind; exact performanceAwards_eq_ok hkind h
  · rename_i hkind; cases h; exact (hnobody hkind).symm
  · cases h

end Rule

/-! ## All rules -/

/-- Wherever the rules can be judged, the awards are what the active ones deserve. -/
theorem Award.all_perm_deserved {rules : List Rule} {awards : List Award}
    (h : Award.all rules r game players = .ok awards) :
    awards.Perm ((rules.filter Rule.isActive).flatMap fun rule =>
      rule.deserved r game players) := by
  refine (Award.all_eq_ok h).trans (List.Perm.of_eq (List.flatMap_congr fun rule hrule => ?_))
  obtain ⟨hmem, hactive⟩ := List.mem_filter.mp hrule
  obtain ⟨found, hfound⟩ := Award.exists_all_iff.mp ⟨awards, h⟩ rule hmem hactive
  rw [hfound, found_ok]
  exact Rule.awards_eq_deserved hfound

/-- A win counts for everybody, and goals for a forward as often as they were scored. The third rule
is not active, and the fourth is given by hand. -/
def winAndGoals : List Rule := [
  { id := 1, name := "Win", points := 3, kind := .result,
    conditions := [
      { key := "goalsFor", operator := .greater, scope := .ofMatch,
        otherKey := some "goalsAgainst" }] },
  { id := 2, name := "Goals", points := 2,
    kind := .performance (.multiplied "goalsScored" .ofPlayer),
    target := { scope := .byPosition, positions := [.forward] },
    conditions := [
      { key := "played", operator := .unequal, otherKey := some "position" },
      { key := "goalsFor", operator := .greaterEqual, value := .whole 1, scope := .ofMatch }] },
  { id := 3, name := "Bonus", points := 9, isActive := false, kind := .performance .flat },
  { id := 4, name := "Captain", points := 5, kind := .manual }]

def forwardAndDefender : List PlayerFacts := [
  { playerId := 7, position := .forward, values := [("goalsScored", .whole 2)] },
  { playerId := 8, position := .defender, values := [("goalsScored", .whole 1)] }]

theorem Award.all_perm_deserved_winAndGoals : ∃ awards,
    Award.all winAndGoals {} { goalsFor := 3, goalsAgainst := 1 } forwardAndDefender = .ok awards ∧
      awards.Perm [
        ⟨7, 1, "Win", 3, "Win: goalsFor > goalsAgainst (3 > 1)"⟩,
        ⟨8, 1, "Win", 3, "Win: goalsFor > goalsAgainst (3 > 1)"⟩,
        ⟨7, 2, "Goals", 4,
          "Goals: played != position (True != FORWARD) AND goalsFor >= 1 (actual: 3)"⟩] := by
  have hjudged : ∀ rule ∈ winAndGoals, rule.isActive = true → ∃ awards,
      rule.awards {} { goalsFor := 3, goalsAgainst := 1 } forwardAndDefender = .ok awards := by
    intro rule hrule _
    have h : ((rule.awards {} { goalsFor := 3, goalsAgainst := 1 }
        forwardAndDefender).toOption).isSome = true := by
      simp only [winAndGoals, List.mem_cons, List.not_mem_nil, or_false] at hrule
      rcases hrule with rfl | rfl | rfl | rfl <;> decide +kernel
    obtain ⟨awards, hawards⟩ := Option.isSome_iff_exists.mp h
    exact ⟨awards, toOption_eq_some.mp hawards⟩
  obtain ⟨awards, h⟩ := Award.exists_all_iff.mpr hjudged
  exact ⟨awards, h, (Award.all_perm_deserved h).trans (List.Perm.of_eq (by decide +kernel))⟩

end ClubPoints
