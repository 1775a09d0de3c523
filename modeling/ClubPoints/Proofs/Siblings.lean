import Mathlib
import ClubPoints.Proofs.Deserved
import ClubPoints.Proofs.Owed

/-!
# One rule in two profiles

Whom a rule brings something, on what grounds and how many times its points is settled before any
price is: these are the shares of the rule. Its rows are the same shares in every profile that
enables it, each at the profile's own points (`rowsOf_eq`).
-/

namespace ClubPoints

variable {rules : List Rule} {profiles : List Profile} {assignments : List Assignment}
  {r : Registry} {game : MatchFacts} {players : List PlayerFacts} {p q : Profile} {rule : Rule}
  {withAutomatic : Bool} {rows : List LedgerRow}

/-! ## Prices -/

namespace Rule

def times (rule : Rule) (r : Registry) (game : MatchFacts) (x : PlayerFacts) : Int :=
  { rule with points := 1 }.worth r game x

theorem worth_eq (rule : Rule) (x : PlayerFacts) :
    rule.worth r game x = rule.points * rule.times r game x := by
  unfold times worth
  cases rule.kind with
  | performance pricing =>
    cases pricing with
    | flat => simp
    | multiplied key scope => by_cases h : (r.resolve? key scope).isSome = true <;> simp [h]
  | _ => simp

end Rule

/-! ## Shares -/

structure Share where
  playerId : Int
  isManual : Bool
  count : Int := 1
  assignmentKey : Option String := none
  notes : String
  times : Int

def Share.row (x : Share) (rule : Rule) (p : Profile) : LedgerRow where
  playerId := x.playerId
  ruleId := rule.id
  points := x.times * p.pointsFor rule
  pointType := p.pointType
  profileId := p.id
  isManual := x.isManual
  count := x.count
  assignmentKey := x.assignmentKey
  notes := x.notes

def Assignment.share (a : Assignment) : Share where
  playerId := a.playerId
  isManual := true
  count := a.count
  assignmentKey := some a.key
  notes := Assignment.notes a.count
  times := a.count

def Rule.share (rule : Rule) (r : Registry) (game : MatchFacts) (x : PlayerFacts) : Share where
  playerId := x.playerId
  isManual := false
  notes := rule.grounds r game x
  times := rule.times r game x

theorem Rule.share_row (rule : Rule) (p : Profile) (x : PlayerFacts) :
    ((p.reprice rule).prize r game x).row p = (rule.share r game x).row rule p := by
  have hworth : (p.reprice rule).worth r game x = rule.times r game x * p.pointsFor rule := by
    rw [worth_eq, Int.mul_comm]
    rfl
  simp only [prize, Award.row, Share.row, hworth]
  rfl

namespace Ledger

def sharesByHand (assignments : List Assignment) (rule : Rule) : List Share :=
  ((assignments.filter Assignment.isCounted).filter fun a => decide (a.ruleId = rule.id)).map
    Assignment.share

def automaticShares (assignments : List Assignment) (r : Registry) (game : MatchFacts)
    (players : List PlayerFacts) (rule : Rule) : List Share :=
  if rule.kind.isAutomatic && rule.isActive then
    ((players.filter fun x => rule.isEarned r game x && decide (rule.target.Means x)).filter
      fun x => !isAssigned assignments (rule.prize r game x)).map (rule.share r game)
  else []

def shares (assignments : List Assignment) (r : Registry) (game : MatchFacts)
    (players : List PlayerFacts) (withAutomatic : Bool) (rule : Rule) : List Share :=
  sharesByHand assignments rule ++
    if withAutomatic then automaticShares assignments r game players rule else []

/-! ## The rows of one rule in one profile -/

def rowsOf (rows : List LedgerRow) (type : PointType) (ruleId : Int) : List LedgerRow :=
  (rows.filter fun row => decide (row.pointType = type)).filter fun row =>
    decide (row.ruleId = ruleId)

theorem mem_rowsOf {row : LedgerRow} {type : PointType} {ruleId : Int}
    (h : row ∈ rowsOf rows type ruleId) :
    row ∈ rows ∧ row.pointType = type ∧ row.ruleId = ruleId := by
  simpa [rowsOf, and_assoc, and_comm] using h

theorem rowsOf_append (xs ys : List LedgerRow) (type : PointType) (ruleId : Int) :
    rowsOf (xs ++ ys) type ruleId = rowsOf xs type ruleId ++ rowsOf ys type ruleId := by
  simp only [rowsOf, List.filter_append]

theorem rowsOf_perm {xs ys : List LedgerRow} (h : xs.Perm ys) (type : PointType) (ruleId : Int) :
    (rowsOf xs type ruleId).Perm (rowsOf ys type ruleId) :=
  (h.filter _).filter _

theorem rowsOf_manualRows (hrules : (rules.map Rule.id).Nodup)
    (hprofiles : (profiles.map Profile.pointType).Nodup) (hp : p ∈ profiles)
    (hrule : rule ∈ rules) (henables : p.enables rule.id = true) :
    rowsOf (manualRows rules profiles assignments) p.pointType rule.id =
      (sharesByHand assignments rule).map fun x => x.row rule p := by
  have hone : ∀ a ∈ (assignments.filter Assignment.isCounted).filter fun a =>
      decide (a.ruleId = rule.id), (assignmentRows rules profiles a).filter
        (fun row => decide (row.pointType = p.pointType)) = [a.share.row rule p] := by
    intro a ha
    have hid : a.ruleId = rule.id := of_decide_eq_true (List.mem_filter.mp ha).2
    have henabled : p ∈ profiles.filter fun p => p.enables rule.id :=
      List.mem_filter.mpr ⟨hp, henables⟩
    have hn : ((profiles.filter fun p => p.enables rule.id).map Profile.pointType).Nodup :=
      hprofiles.sublist (List.filter_sublist.map _)
    have hrows : assignmentRows rules profiles a =
        (profiles.filter fun p => p.enables rule.id).map (a.row rule) := by
      unfold assignmentRows
      rw [hid, rule?_of_mem hrules hrule]
    have hpick := filter_key hn henabled
    rw [hrows, List.filter_map]
    exact congrArg (List.map (a.row rule)) hpick
  unfold rowsOf manualRows sharesByHand
  rw [List.filter_comm, filter_flatMap_key fun a _ row hrow => (of_mem_assignmentRows hrow).2,
    List.filter_flatMap, List.flatMap_congr hone, List.map_map]
  exact List.flatMap_pure_eq_map ..

theorem dueRows_eq (henables : p.enables rule.id = true)
    (hjudged : isDue p rule = true → ∃ awards, (p.reprice rule).awards r game players = .ok awards) :
    dueRows assignments r game players p rule =
      (automaticShares assignments r game players rule).map fun x => x.row rule p := by
  have hdue : isDue p rule = (rule.kind.isAutomatic && rule.isActive) := by
    rw [isDue, henables, Bool.and_true]
  unfold dueRows automaticShares
  rw [← hdue]
  by_cases h : isDue p rule = true
  · obtain ⟨awards, hawards⟩ := hjudged h
    rw [if_pos h, if_pos h, hawards, found_ok, Rule.awards_eq_deserved hawards, Rule.deserved,
      List.filter_map, List.map_map, List.map_map]
    exact List.map_congr_left fun x _ => rule.share_row p x
  · rw [if_neg h, if_neg h, List.map_nil]

theorem rowsOf_automaticRows (hrules : (rules.map Rule.id).Nodup)
    (hprofiles : (profiles.map Profile.pointType).Nodup) (hp : p ∈ profiles)
    (hrule : rule ∈ rules) (henables : p.enables rule.id = true)
    (h : automaticRows rules profiles assignments r game players = .ok rows) :
    (rowsOf rows p.pointType rule.id).Perm
      ((automaticShares assignments r game players rule).map fun x => x.row rule p) := by
  have htype : ∀ q ∈ profiles, ∀ row ∈ rules.flatMap (dueRows assignments r game players q),
      row.pointType = q.pointType := by
    intro q _ row hrow
    obtain ⟨rule, -, hrow⟩ := List.mem_flatMap.mp hrow
    obtain ⟨-, a, -, -, -, rfl⟩ := mem_dueRows hrow
    rfl
  have hid : ∀ x ∈ rules, ∀ row ∈ dueRows assignments r game players p x, row.ruleId = x.id := by
    intro x _ row hrow
    obtain ⟨-, a, ha, -, -, rfl⟩ := mem_dueRows hrow
    exact ha
  have hjudged := exists_automaticRows_iff.mp ⟨rows, h⟩ p hp rule hrule
  refine (rowsOf_perm (automaticRows_eq_ok h) _ _).trans (.of_eq ?_)
  rw [rowsOf, filter_flatMap_key htype, filter_key hprofiles hp, List.flatMap_singleton,
    filter_flatMap_key hid, filter_key hrules hrule, List.flatMap_singleton,
    dueRows_eq henables hjudged]

theorem rowsOf_assemble (hrules : (rules.map Rule.id).Nodup)
    (hprofiles : (profiles.map Profile.pointType).Nodup) (hp : p ∈ profiles)
    (hrule : rule ∈ rules) (henables : p.enables rule.id = true)
    (h : assemble rules profiles assignments r game players withAutomatic = .ok rows) :
    (rowsOf rows p.pointType rule.id).Perm
      ((shares assignments r game players withAutomatic rule).map fun x => x.row rule p) := by
  obtain ⟨automatic, hautomatic, rfl⟩ := assemble_eq_ok.mp h
  refine (rowsOf_perm (List.mergeSort_perm _ _) _ _).trans ?_
  rw [rowsOf_append, rowsOf_manualRows hrules hprofiles hp hrule henables, shares, List.map_append]
  refine List.Perm.append_left _ ?_
  cases withAutomatic with
  | false =>
    cases hautomatic
    exact List.Perm.refl _
  | true => exact rowsOf_automaticRows hrules hprofiles hp hrule henables hautomatic

theorem rowsOf_sorted (h : assemble rules profiles assignments r game players withAutomatic =
    .ok rows) (type : PointType) (ruleId : Int) :
    (rowsOf rows type ruleId).Pairwise fun a b => a.playerId ≤ b.playerId := by
  obtain ⟨automatic, -, rfl⟩ := assemble_eq_ok.mp h
  have hsorted :=
    sortsBy_before.pairwise_mergeSort (manualRows rules profiles assignments ++ automatic)
  refine ((hsorted.filter _).filter _).imp_of_mem fun {a b} ha hb hab => ?_
  have htype : a.pointType = b.pointType := (mem_rowsOf ha).2.1.trans (mem_rowsOf hb).2.1.symm
  simp only [LedgerRow.place, htype, Prod.Lex.toLex_le_toLex, lt_self_iff_false, true_and,
    false_or] at hab
  exact hab.elim le_of_lt fun h => h.1.le

theorem rowsOf_once (hslots : (rows.map slot).Nodup) (type : PointType) (ruleId : Int) :
    ((rowsOf rows type ruleId).map LedgerRow.playerId).Nodup := by
  have hrows : (rowsOf rows type ruleId).Pairwise fun a b => slot a ≠ slot b :=
    ((List.pairwise_map.mp hslots).filter _).filter _
  refine List.pairwise_map.mpr (hrows.imp_of_mem fun {a b} ha hb hab hplayer => hab ?_)
  obtain ⟨-, hatype, harule⟩ := mem_rowsOf ha
  obtain ⟨-, hbtype, hbrule⟩ := mem_rowsOf hb
  simp only [slot, hatype, hbtype, harule, hbrule, hplayer]

/-- The rows of a rule are its shares in the order of the players; no price decides who has one. -/
theorem rowsOf_eq (hrules : (rules.map Rule.id).Nodup)
    (hprofiles : (profiles.map Profile.pointType).Nodup) (hslots : (rows.map slot).Nodup)
    (hrule : rule ∈ rules)
    (h : assemble rules profiles assignments r game players withAutomatic = .ok rows) :
    ∃ xs : List Share, ∀ p ∈ profiles, p.enables rule.id = true →
      rowsOf rows p.pointType rule.id = xs.map fun x => x.row rule p := by
  have hsorts : SortsBy (fun a b : Share => decide (a.playerId ≤ b.playerId)) Share.playerId :=
    fun a b => decide_eq_true_iff
  refine ⟨(shares assignments r game players withAutomatic rule).mergeSort fun a b =>
    decide (a.playerId ≤ b.playerId), fun p hp henables => ?_⟩
  have hperm := (rowsOf_assemble hrules hprofiles hp hrule henables h).trans
    ((List.mergeSort_perm _ fun a b => decide (a.playerId ≤ b.playerId)).map _).symm
  have honce := rowsOf_once hslots p.pointType rule.id
  exact eq_of_perm hperm ((hperm.map LedgerRow.playerId).nodup_iff.mp honce)
    (rowsOf_sorted h p.pointType rule.id) (List.pairwise_map.mpr (hsorts.pairwise_mergeSort _))

end Ledger

/-! ## Keys of what is given by hand -/

theorem colon_notMem (n : Int) : ':' ∉ n.repr.toList := by
  have hdigits (m : Nat) : ':' ∉ m.repr.toList := by
    intro h
    rw [Nat.toList_repr] at h
    exact absurd (Nat.isDigit_of_mem_toDigits (by decide) (by decide) h) (by decide)
  rw [Int.repr_eq_if]
  by_cases hn : 0 ≤ n
  · rw [if_pos hn]
    exact hdigits _
  · rw [if_neg hn, String.toList_append, List.mem_append]
    exact fun h => h.elim (by decide) (hdigits _)

/-- No number has a colon in it, so the key tells both numbers. -/
theorem Assignment.key_inj {a b : Assignment} :
    a.key = b.key ↔ a.playerId = b.playerId ∧ a.ruleId = b.ruleId := by
  have hlist (a : Assignment) :
      a.key.toList = a.playerId.repr.toList ++ ':' :: a.ruleId.repr.toList := by
    simp [key, toString, String.toList_append]
  rw [← String.toList_inj, hlist, hlist,
    List.append_cons_inj_of_notMem (colon_notMem _) (colon_notMem _), String.toList_inj,
    String.toList_inj, Int.repr_inj, Int.repr_inj]
  simp

namespace Ledger

theorem key_of_manual
    (h : assemble rules profiles assignments r game players withAutomatic = .ok rows) :
    ∀ row ∈ rows, row.isManual = true →
      ∃ a : Assignment, row.assignmentKey = some a.key ∧ a.playerId = row.playerId ∧
        a.ruleId = row.ruleId := by
  intro row hrow hmanual
  rcases mem_assemble h hrow with hrow | ⟨p, -, rule, -, hrow⟩
  · obtain ⟨a, -, -, rule, hrule, p, -, -, rfl⟩ := mem_manualRows.mp hrow
    exact ⟨a, rfl, rfl, (rule?_eq_some hrule).2.symm⟩
  · obtain ⟨-, a, -, -, -, rfl⟩ := mem_dueRows hrow
    cases hmanual

/-! ## The rows of both profiles -/

/-- Two rows of a rule, in one profile and in another, that differ in the price only. -/
structure Siblings (rule : Rule) (p q : Profile) (a b : LedgerRow) : Prop where
  playerId : a.playerId = b.playerId
  isManual : a.isManual = b.isManual
  count : a.count = b.count
  assignmentKey : a.assignmentKey = b.assignmentKey
  notes : a.notes = b.notes
  points : a.points * q.pointsFor rule = b.points * p.pointsFor rule

theorem Share.siblings (x : Share) (rule : Rule) (p q : Profile) :
    Siblings rule p q (x.row rule p) (x.row rule q) where
  playerId := rfl
  isManual := rfl
  count := rfl
  assignmentKey := rfl
  notes := rfl
  points := Int.mul_right_comm ..

/-- The rows that two profiles have of a rule are siblings one by one, a player having at most one of
them in each; and rows by hand have the same key just if player and rule are the same. -/
theorem assemble_siblings (hrules : (rules.map Rule.id).Nodup)
    (hprofiles : (profiles.map Profile.pointType).Nodup)
    (hassigned : (assignments.map fun a => (a.playerId, a.ruleId)).Nodup)
    (hplayers : (players.map PlayerFacts.playerId).Nodup)
    (h : assemble rules profiles assignments r game players withAutomatic = .ok rows) :
    (∀ p ∈ profiles, ∀ q ∈ profiles, ∀ rule ∈ rules, p.enables rule.id = true →
      q.enables rule.id = true →
      List.Forall₂ (Siblings rule p q) (rowsOf rows p.pointType rule.id)
          (rowsOf rows q.pointType rule.id) ∧
        ((rowsOf rows p.pointType rule.id).map LedgerRow.playerId).Nodup) ∧
    ∀ a ∈ rows, ∀ b ∈ rows, a.isManual = true → b.isManual = true →
      (a.assignmentKey = b.assignmentKey ↔ a.playerId = b.playerId ∧ a.ruleId = b.ruleId) := by
  have hslots := nodup_slot hrules hprofiles hassigned hplayers h
  constructor
  · intro p hp q hq rule hrule hpenables hqenables
    obtain ⟨xs, hxs⟩ := rowsOf_eq hrules hprofiles hslots hrule h
    refine ⟨?_, rowsOf_once hslots p.pointType rule.id⟩
    rw [hxs p hp hpenables, hxs q hq hqenables, List.forall₂_map_left_iff,
      List.forall₂_map_right_iff, List.forall₂_same]
    exact fun x _ => Share.siblings x rule p q
  · intro a ha b hb hamanual hbmanual
    obtain ⟨x, hx, hxplayer, hxrule⟩ := key_of_manual h a ha hamanual
    obtain ⟨y, hy, hyplayer, hyrule⟩ := key_of_manual h b hb hbmanual
    rw [hx, hy, Option.some.injEq, Assignment.key_inj, hxplayer, hyplayer, hxrule, hyrule]

def forTheTeam : Profile where
  id := 1
  pointType := .team
  overrides := [{ ruleId := 1 }, { ruleId := 2, customPoints := some 5 }, { ruleId := 4 }]

def forTheClub : Profile where
  id := 2
  pointType := .club
  overrides := [{ ruleId := 2, customPoints := some (-1) }, { ruleId := 4, customPoints := some 0 }]

theorem exists_assemble_winAndGoals (assignments : List Assignment) :
    ∃ rows, assemble winAndGoals [forTheTeam, forTheClub] assignments {}
      { goalsFor := 3, goalsAgainst := 1 } forwardAndDefender true = .ok rows := by
  have hjudged : ∀ p ∈ [forTheTeam, forTheClub], ∀ rule ∈ winAndGoals, isDue p rule = true →
      ∃ awards, (p.reprice rule).awards {} { goalsFor := 3, goalsAgainst := 1 } forwardAndDefender =
        .ok awards := by
    intro p hp rule hrule _
    apply exists_eq_ok
    simp only [List.mem_cons, List.not_mem_nil, or_false] at hp
    simp only [winAndGoals, List.mem_cons, List.not_mem_nil, or_false] at hrule
    rcases hp with rfl | rfl <;> rcases hrule with rfl | rfl | rfl | rfl <;> decide +kernel
  obtain ⟨automatic, hautomatic⟩ := exists_automaticRows_iff.mpr hjudged
  exact ⟨_, assemble_eq_ok.mpr ⟨automatic, hautomatic, rfl⟩⟩

theorem assemble_siblings_winAndGoals :
    (winAndGoals.map Rule.id).Nodup ∧
      ∃ rows, assemble winAndGoals [forTheTeam, forTheClub] [⟨4, 8, 2⟩] {}
          { goalsFor := 3, goalsAgainst := 1 } forwardAndDefender true = .ok rows ∧
        (rowsOf rows .team 2).map LedgerRow.points = [10] ∧
        (rowsOf rows .club 2).map LedgerRow.points = [-2] ∧
        ∀ rule ∈ winAndGoals, forTheTeam.enables rule.id = true →
          forTheClub.enables rule.id = true →
          List.Forall₂ (Siblings rule forTheTeam forTheClub) (rowsOf rows .team rule.id)
            (rowsOf rows .club rule.id) := by
  have hrules : (winAndGoals.map Rule.id).Nodup := by decide
  have hprofiles : ([forTheTeam, forTheClub].map Profile.pointType).Nodup := by decide
  obtain ⟨rows, h⟩ := exists_assemble_winAndGoals [⟨4, 8, 2⟩]
  have hgoals : winAndGoals[1] ∈ winAndGoals := List.getElem_mem _
  have hteam := (rowsOf_assemble hrules hprofiles (p := forTheTeam) (by simp) hgoals (by decide)
    h).map LedgerRow.points
  have hclub := (rowsOf_assemble hrules hprofiles (p := forTheClub) (by simp) hgoals (by decide)
    h).map LedgerRow.points
  refine ⟨hrules, rows, h, ?_, ?_, ?_⟩
  · exact List.perm_singleton.mp (hteam.trans (.of_eq (by decide +kernel)))
  · exact List.perm_singleton.mp (hclub.trans (.of_eq (by decide +kernel)))
  · intro rule hrule hpaid htaken
    exact ((assemble_siblings hrules hprofiles (by decide) (by decide) h).1 forTheTeam (by simp)
      forTheClub (by simp) rule hrule hpaid htaken).1

end Ledger

end ClubPoints
