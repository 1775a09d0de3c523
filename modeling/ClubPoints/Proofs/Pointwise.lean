import ClubPoints.Proofs.Assignments
import ClubPoints.Proofs.Preview
import ClubPoints.Proofs.Shuffling
import ClubPoints.Proofs.Siblings

/-!
# A ledger is pointwise

What a ledger says of one type of points, one player and one rule is the ledger of nothing but
these: `assemble_pointwise`. Sorting keeps equal rows in their order, so this holds for a player who
is there twice as well.
-/

namespace ClubPoints

variable {rules : List Rule} {r : Registry} {game : MatchFacts} {players : List PlayerFacts}
  {rule : Rule} {playerId ruleId : Int}

/-! ## Awards -/

def Award.target (a : Award) : Int × Int := (a.playerId, a.ruleId)

namespace Rule

theorem filter_deserved (rule : Rule) (players : List PlayerFacts) (playerId : Int) :
    (rule.deserved r game players).filter (fun a => decide (a.playerId = playerId)) =
      rule.deserved r game (players.filter fun p => decide (p.playerId = playerId)) := by
  unfold deserved
  rw [List.filter_map, List.filter_comm]
  rfl

theorem ruleId_of_deserved (rule : Rule) {a : Award} (ha : a ∈ rule.deserved r game players) :
    a.ruleId = rule.id := by
  obtain ⟨p, -, rfl⟩ := List.mem_map.mp ha
  rfl

end Rule

namespace Award

theorem all_eq_sort {awards : List Award} :
    Award.all rules r game players = .ok awards ↔
      (∀ rule ∈ rules, rule.isActive = true → ∃ found, rule.awards r game players = .ok found) ∧
        awards = sort ((rules.filter Rule.isActive).flatMap fun rule =>
          rule.deserved r game players) := by
  rw [← exists_all_iff]
  have hdeserved {awards : List Award} (h : Award.all rules r game players = .ok awards) :
      awards = sort ((rules.filter Rule.isActive).flatMap fun rule =>
        rule.deserved r game players) := by
    rw [all_eq_map] at h
    obtain ⟨_, hflat, rfl⟩ := map_eq_ok.mp h
    obtain ⟨lists, hlists, rfl⟩ := map_eq_ok.mp hflat
    rw [flatten_of_mapM hlists]
    congr 1
    apply List.flatMap_congr
    intro rule hrule
    obtain ⟨awards, hawards⟩ := exists_mapM_iff.mp ⟨lists, hlists⟩ rule hrule
    rw [hawards, found_ok, Rule.awards_eq_deserved hawards]
  constructor
  · intro h
    exact ⟨⟨awards, h⟩, hdeserved h⟩
  · intro h
    obtain ⟨⟨awards', h'⟩, rfl⟩ := h
    rw [h', hdeserved h']

theorem all_of_target {awards : List Award} (h : Award.all rules r game players = .ok awards) :
    Award.all (rules.filter fun rule => decide (rule.id = ruleId)) r game
        (players.filter fun p => decide (p.playerId = playerId)) =
      .ok (awards.filter fun a => decide (a.target = (playerId, ruleId))) := by
  obtain ⟨hjudged, rfl⟩ := all_eq_sort.mp h
  apply all_eq_sort.mpr
  constructor
  · intro rule hrule hactive
    apply Rule.exists_awards_of_subset (List.filter_subset_self _)
    exact hjudged rule (List.mem_filter.mp hrule).1 hactive
  · have htarget : (fun a : Award => decide (a.target = (playerId, ruleId))) = fun a =>
        decide (a.playerId = playerId) && decide (a.ruleId = ruleId) := by
      funext a
      simp [target]
    rw [sort, sort, sortsBy_before.filter_mergeSort, htarget, ← List.filter_filter,
      filter_flatMap_key fun rule _ a ha => rule.ruleId_of_deserved ha, List.filter_flatMap,
      List.filter_comm]
    simp only [Rule.filter_deserved]

end Award

namespace Ledger

variable {profiles : List Profile} {assignments : List Assignment} {p : Profile}
  {withAutomatic : Bool} {type : PointType}

theorem filter_slot (rows : List LedgerRow) :
    rows.filter (fun row => decide (slot row = (type, playerId, ruleId))) =
      (rows.filter fun row => decide (row.pointType = type)).filter fun row =>
        decide ((row.playerId, row.ruleId) = (playerId, ruleId)) := by
  rw [List.filter_filter]
  apply List.filter_congr
  intro row _
  simp [slot, and_comm]

/-! ## Rows by hand -/

theorem rule?_of_id : rule? (rules.filter fun rule => decide (rule.id = ruleId)) ruleId =
    rule? rules ruleId := by
  unfold rule? Keyed.find?
  rw [← List.filter_reverse, List.find?_filter]
  simp

theorem assignmentRows_of_type {a : Assignment} (ha : a.ruleId = ruleId) :
    (assignmentRows rules profiles a).filter (fun row => decide (row.pointType = type)) =
      assignmentRows (rules.filter fun rule => decide (rule.id = ruleId))
        (profiles.filter fun p => decide (p.pointType = type)) a := by
  unfold assignmentRows
  rw [ha, rule?_of_id]
  cases rule? rules ruleId with
  | none => rfl
  | some rule =>
    dsimp only
    rw [List.filter_map, List.filter_comm]
    rfl

theorem manualRows_of_slot :
    (manualRows rules profiles assignments).filter
        (fun row => decide (slot row = (type, playerId, ruleId))) =
      manualRows (rules.filter fun rule => decide (rule.id = ruleId))
        (profiles.filter fun p => decide (p.pointType = type))
        (assignments.filter fun a => decide ((a.playerId, a.ruleId) = (playerId, ruleId))) := by
  have htarget : ∀ a ∈ assignments.filter Assignment.isCounted,
      ∀ row ∈ assignmentRows rules profiles a,
        (row.playerId, row.ruleId) = (a.playerId, a.ruleId) := by
    intro a _ row hrow
    obtain ⟨hplayer, hrule⟩ := of_mem_assignmentRows hrow
    rw [hplayer, hrule]
  unfold manualRows
  rw [filter_slot, List.filter_comm, filter_flatMap_key htarget, List.filter_flatMap,
    List.filter_comm]
  apply List.flatMap_congr
  intro a ha
  have hid := of_decide_eq_true (List.mem_filter.mp (List.mem_filter.mp ha).1).2
  exact assignmentRows_of_type (congrArg Prod.snd hid)

/-! ## Automatic rows -/

theorem isAssigned_of_target {a : Award} (ha : a.target = (playerId, ruleId)) :
    isAssigned (assignments.filter fun x =>
        decide ((x.playerId, x.ruleId) = (playerId, ruleId))) a =
      isAssigned assignments a := by
  unfold isAssigned
  rw [List.any_filter]
  congr 1
  funext x
  simp only [Award.target, Prod.mk.injEq] at ha
  obtain ⟨rfl, rfl⟩ := ha
  by_cases hplayer : x.playerId = a.playerId
  · by_cases hrule : x.ruleId = a.ruleId
    · simp [hplayer, hrule]
    · simp [hrule]
  · simp [hplayer]

theorem profileRows_of_target {rows : List LedgerRow}
    (h : profileRows rules assignments r game players p = .ok rows) :
    profileRows (rules.filter fun rule => decide (rule.id = ruleId))
        (assignments.filter fun a => decide ((a.playerId, a.ruleId) = (playerId, ruleId))) r game
        (players.filter fun x => decide (x.playerId = playerId)) p =
      .ok (rows.filter fun row => decide ((row.playerId, row.ruleId) = (playerId, ruleId))) := by
  obtain ⟨awards, hawards, rfl⟩ := profileRows_eq_ok_iff.mp h
  have htarget : Award.all (p.rules (rules.filter fun rule => decide (rule.id = ruleId))) r game
      (players.filter fun x => decide (x.playerId = playerId)) =
        .ok (awards.filter fun a => decide (a.target = (playerId, ruleId))) := by
    rw [p.rules_filter fun _ => rfl]
    exact Award.all_of_target hawards
  apply profileRows_eq_ok_iff.mpr
  refine ⟨_, htarget, ?_⟩
  have hkept : ∀ a ∈ awards.filter fun a => decide (a.target = (playerId, ruleId)),
      (!isAssigned (assignments.filter fun a => decide ((a.playerId, a.ruleId) =
        (playerId, ruleId))) a) = !isAssigned assignments a := by
    intro a ha
    rw [isAssigned_of_target (of_decide_eq_true (List.mem_filter.mp ha).2)]
  rw [List.filter_congr hkept, List.filter_comm, List.filter_map]
  rfl

theorem automaticRows_eq_ok_iff {rows : List LedgerRow} :
    automaticRows rules profiles assignments r game players = .ok rows ↔
      (∀ p ∈ profiles, ∃ rows, profileRows (rules.filter fun rule => rule.kind.isAutomatic)
        assignments r game players p = .ok rows) ∧
      rows = profiles.flatMap fun p => found (profileRows (rules.filter fun rule =>
        rule.kind.isAutomatic) assignments r game players p) := by
  rw [← exists_mapM_iff]
  simp only [automaticRows, bind_eq_ok, pure_eq_ok]
  constructor
  · intro h
    obtain ⟨lists, hlists, rfl⟩ := h
    exact ⟨⟨lists, hlists⟩, flatten_of_mapM hlists⟩
  · intro h
    obtain ⟨⟨lists, hlists⟩, rfl⟩ := h
    exact ⟨lists, hlists, flatten_of_mapM hlists⟩

theorem automaticRows_of_slot {rows : List LedgerRow}
    (h : automaticRows rules profiles assignments r game players = .ok rows) :
    automaticRows (rules.filter fun rule => decide (rule.id = ruleId))
        (profiles.filter fun p => decide (p.pointType = type))
        (assignments.filter fun a => decide ((a.playerId, a.ruleId) = (playerId, ruleId))) r game
        (players.filter fun x => decide (x.playerId = playerId)) =
      .ok (rows.filter fun row => decide (slot row = (type, playerId, ruleId))) := by
  obtain ⟨hjudged, rfl⟩ := automaticRows_eq_ok_iff.mp h
  have htype : ∀ p ∈ profiles, ∀ row ∈ found (profileRows (rules.filter fun rule =>
      rule.kind.isAutomatic) assignments r game players p), row.pointType = p.pointType := by
    intro p hp row hrow
    obtain ⟨rows, hrows⟩ := hjudged p hp
    rw [hrows] at hrow
    exact (pointType_of_profileRows hrows row hrow).1
  apply automaticRows_eq_ok_iff.mpr
  rw [List.filter_comm, filter_slot, filter_flatMap_key htype, List.filter_flatMap]
  constructor
  · intro p hp
    obtain ⟨rows, hrows⟩ := hjudged p (List.mem_filter.mp hp).1
    exact ⟨_, profileRows_of_target hrows⟩
  · apply List.flatMap_congr
    intro p hp
    obtain ⟨rows, hrows⟩ := hjudged p (List.mem_filter.mp hp).1
    rw [hrows, profileRows_of_target hrows, found_ok, found_ok]

/-! ## The whole ledger -/

/-- What a ledger says of one type of points, player and rule is the ledger of these alone, and what
it says by hand is the ledger without automatic rows. -/
theorem assemble_pointwise {rows : List LedgerRow}
    (h : assemble rules profiles assignments r game players withAutomatic = .ok rows) :
    (∀ type playerId ruleId,
      assemble (rules.filter fun rule => decide (rule.id = ruleId))
          (profiles.filter fun p => decide (p.pointType = type))
          (assignments.filter fun a => decide ((a.playerId, a.ruleId) = (playerId, ruleId))) r game
          (players.filter fun x => decide (x.playerId = playerId)) withAutomatic =
        .ok (rows.filter fun row => decide (slot row = (type, playerId, ruleId)))) ∧
    assemble rules profiles assignments r game players false =
      .ok (rows.filter LedgerRow.isManual) := by
  obtain ⟨automatic, hautomatic, rfl⟩ := assemble_eq_ok.mp h
  -- the sort is stable, so rows may be picked before it
  constructor
  · intro type playerId ruleId
    apply assemble_eq_ok.mpr
    refine ⟨automatic.filter fun row => decide (slot row = (type, playerId, ruleId)), ?_, ?_⟩
    · cases withAutomatic with
      | false =>
        cases hautomatic
        rfl
      | true => exact automaticRows_of_slot hautomatic
    · rw [sort, sort, sortsBy_before.filter_mergeSort, List.filter_append, manualRows_of_slot]
  · apply assemble_eq_ok.mpr
    refine ⟨[], rfl, ?_⟩
    have hmanual : ∀ row ∈ manualRows rules profiles assignments, row.isManual = true := by
      intro row hrow
      obtain ⟨a, -, -, rule, -, p, -, -, rfl⟩ := mem_manualRows.mp hrow
      rfl
    have hnone : ∀ row ∈ automatic, ¬ row.isManual = true := by
      intro row hrow
      cases withAutomatic with
      | false =>
        cases hautomatic
        cases hrow
      | true =>
        have hdue := (automaticRows_eq_ok hautomatic).mem_iff.mp hrow
        simp only [List.mem_flatMap] at hdue
        obtain ⟨p, -, rule, -, hdue⟩ := hdue
        obtain ⟨-, a, -, -, -, rfl⟩ := mem_dueRows hdue
        exact Bool.false_ne_true
    rw [sort, sort, sortsBy_before.filter_mergeSort, List.filter_append,
      List.filter_eq_self.mpr hmanual, List.filter_eq_nil_iff.mpr hnone]

theorem assemble_pointwise_winAndGoals : ∃ rows,
    assemble winAndGoals [forTheTeam, forTheClub] [⟨4, 8, 2⟩] {}
        { goalsFor := 3, goalsAgainst := 1 } forwardAndDefender true = .ok rows ∧
      assemble [winAndGoals[1]] [forTheTeam] [] {} { goalsFor := 3, goalsAgainst := 1 }
          [forwardAndDefender[0]] true =
        .ok (rows.filter fun row => decide (slot row = (.team, 7, 2))) ∧
      assemble winAndGoals [forTheTeam, forTheClub] [⟨4, 8, 2⟩] {}
          { goalsFor := 3, goalsAgainst := 1 } forwardAndDefender false =
        .ok (rows.filter LedgerRow.isManual) := by
  obtain ⟨rows, h⟩ := exists_assemble_winAndGoals [⟨4, 8, 2⟩]
  have hpointwise := assemble_pointwise h
  exact ⟨rows, h, hpointwise.1 .team 7 2, hpointwise.2⟩

end Ledger

end ClubPoints
