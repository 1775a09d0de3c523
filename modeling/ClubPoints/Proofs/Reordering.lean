import ClubPoints.Proofs.Assignments
import ClubPoints.Proofs.Shuffling
import ClubPoints.Proofs.Siblings

/-!
# The order of what a ledger is made of

Another order of the rules, the profiles, the assignments or the players brings the same rows in
another order. No two rows have one place, so the sort gives one list (`assemble_shuffled`).
-/

namespace ClubPoints.Ledger

variable {rules rules' : List Rule} {profiles profiles' : List Profile}
  {assignments assignments' : List Assignment} {r : Registry} {game : MatchFacts}
  {players players' : List PlayerFacts} {p : Profile} {rule : Rule} {withAutomatic : Bool}

/-! ## Rows by hand -/

theorem rule?_shuffled (hids : (rules.map Rule.id).Nodup) (hrules : rules'.Perm rules) (id : Int) :
    rule? rules' id = rule? rules id := by
  cases h : rule? rules id with
  | none =>
    rw [rule?_eq_none] at h ⊢
    intro rule hrule
    exact h rule (hrules.mem_iff.mp hrule)
  | some rule =>
    obtain ⟨hrule, hid⟩ := rule?_eq_some h
    rw [← hid]
    apply rule?_of_mem
    · exact (hrules.map Rule.id).nodup_iff.mpr hids
    · exact hrules.mem_iff.mpr hrule

theorem assignmentRows_shuffled (hids : (rules.map Rule.id).Nodup) (hrules : rules'.Perm rules)
    (hprofiles : profiles'.Perm profiles) (a : Assignment) :
    (assignmentRows rules' profiles' a).Perm (assignmentRows rules profiles a) := by
  unfold assignmentRows
  rw [rule?_shuffled hids hrules]
  cases rule? rules a.ruleId with
  | none => exact List.Perm.refl _
  | some rule => exact (hprofiles.filter _).map _

theorem manualRows_shuffled (hids : (rules.map Rule.id).Nodup) (hrules : rules'.Perm rules)
    (hprofiles : profiles'.Perm profiles) (hassignments : assignments'.Perm assignments) :
    (manualRows rules' profiles' assignments').Perm (manualRows rules profiles assignments) := by
  unfold manualRows
  apply ((hassignments.filter _).flatMap_right _).trans
  apply List.Perm.flatMap_left
  intro a _
  exact assignmentRows_shuffled hids hrules hprofiles a

/-! ## Automatic rows -/

theorem dueRows_shuffled (hassignments : assignments'.Perm assignments)
    (hplayers : players'.Perm players) :
    (dueRows assignments' r game players' p rule).Perm
      (dueRows assignments r game players p rule) := by
  have hassigned : (fun a => !isAssigned assignments' a) = fun a => !isAssigned assignments a := by
    funext a
    exact congrArg not hassignments.any_eq
  unfold dueRows
  by_cases hdue : isDue p rule = true
  · rw [if_pos hdue, if_pos hdue, hassigned]
    exact ((Rule.found_awards_shuffled hplayers).filter _).map _
  · rw [if_neg hdue, if_neg hdue]

theorem exists_automaticRows_shuffled (hrules : rules'.Perm rules)
    (hprofiles : profiles'.Perm profiles) (hplayers : players'.Perm players) :
    (∃ rows, automaticRows rules' profiles' assignments' r game players' = .ok rows) ↔
      ∃ rows, automaticRows rules profiles assignments r game players = .ok rows := by
  simp only [exists_automaticRows_iff, hrules.mem_iff, hprofiles.mem_iff,
    Rule.exists_awards_shuffled hplayers]

theorem automaticRows_shuffled (hrules : rules'.Perm rules) (hprofiles : profiles'.Perm profiles)
    (hassignments : assignments'.Perm assignments) (hplayers : players'.Perm players)
    {rows rows' : List LedgerRow}
    (h' : automaticRows rules' profiles' assignments' r game players' = .ok rows')
    (h : automaticRows rules profiles assignments r game players = .ok rows) :
    rows'.Perm rows := by
  apply (automaticRows_eq_ok h').trans
  apply List.Perm.trans _ (automaticRows_eq_ok h).symm
  apply (hprofiles.flatMap_right _).trans
  apply List.Perm.flatMap_left
  intro p _
  apply (hrules.flatMap_right _).trans
  apply List.Perm.flatMap_left
  intro rule _
  exact dueRows_shuffled hassignments hplayers

/-! ## The whole ledger -/

theorem exists_assemble_iff :
    (∃ rows, assemble rules profiles assignments r game players withAutomatic = .ok rows) ↔
      (withAutomatic = true →
        ∃ rows, automaticRows rules profiles assignments r game players = .ok rows) := by
  simp only [assemble_eq_ok]
  cases withAutomatic with
  | false => simp
  | true => simp

theorem assemble_perm (hids : (rules.map Rule.id).Nodup) (hrules : rules'.Perm rules)
    (hprofiles : profiles'.Perm profiles) (hassignments : assignments'.Perm assignments)
    (hplayers : players'.Perm players) {rows rows' : List LedgerRow}
    (h' : assemble rules' profiles' assignments' r game players' withAutomatic = .ok rows')
    (h : assemble rules profiles assignments r game players withAutomatic = .ok rows) :
    rows'.Perm rows := by
  obtain ⟨automatic', hautomatic', rfl⟩ := assemble_eq_ok.mp h'
  obtain ⟨automatic, hautomatic, rfl⟩ := assemble_eq_ok.mp h
  have hperm : automatic'.Perm automatic := by
    cases withAutomatic with
    | false =>
      cases hautomatic'
      cases hautomatic
      exact List.Perm.refl _
    | true =>
      exact automaticRows_shuffled hrules hprofiles hassignments hplayers hautomatic' hautomatic
  have hmanual := manualRows_shuffled hids hrules hprofiles hassignments
  calc sort (manualRows rules' profiles' assignments' ++ automatic')
    List.Perm _ (manualRows rules' profiles' assignments' ++ automatic') := List.mergeSort_perm ..
    List.Perm _ (manualRows rules profiles assignments ++ automatic) := hmanual.append hperm
    List.Perm _ (sort (manualRows rules profiles assignments ++ automatic)) :=
      (List.mergeSort_perm ..).symm

/-- Rules, profiles, assignments and players without repetition, in whatever order they come, either
cannot be judged or make the same ledger. -/
theorem assemble_shuffled (hids : (rules.map Rule.id).Nodup)
    (htypes : (profiles.map Profile.pointType).Nodup)
    (hassigned : (assignments.map fun a => (a.playerId, a.ruleId)).Nodup)
    (honce : (players.map PlayerFacts.playerId).Nodup)
    (hrules : rules'.Perm rules) (hprofiles : profiles'.Perm profiles)
    (hassignments : assignments'.Perm assignments) (hplayers : players'.Perm players) :
    ((∃ fault, assemble rules' profiles' assignments' r game players' withAutomatic =
        .error fault) ↔
      ∃ fault, assemble rules profiles assignments r game players withAutomatic =
        .error fault) ∧
    ∀ rows, assemble rules' profiles' assignments' r game players' withAutomatic = .ok rows ↔
      assemble rules profiles assignments r game players withAutomatic = .ok rows := by
  apply agree_of_ok
  · rw [exists_assemble_iff, exists_assemble_iff,
      exists_automaticRows_shuffled hrules hprofiles hplayers]
  · intro rows' rows h' h
    have hperm := assemble_perm hids hrules hprofiles hassignments hplayers h' h
    have hslots : (rows.map slot).Nodup := nodup_slot hids htypes hassigned honce h
    exact eq_of_perm hperm (nodup_place hslots) (sorted_assemble h') (sorted_assemble h)

theorem assemble_shuffled_winAndGoals :
    (winAndGoals.map Rule.id).Nodup ∧
      ∃ rows, assemble winAndGoals [forTheTeam, forTheClub] [⟨4, 8, 2⟩, ⟨1, 7, 1⟩] {}
          { goalsFor := 3, goalsAgainst := 1 } forwardAndDefender true = .ok rows ∧
        assemble winAndGoals.reverse [forTheClub, forTheTeam] [⟨1, 7, 1⟩, ⟨4, 8, 2⟩] {}
          { goalsFor := 3, goalsAgainst := 1 } forwardAndDefender.reverse true = .ok rows := by
  have hids : (winAndGoals.map Rule.id).Nodup := by decide
  obtain ⟨rows, h⟩ := exists_assemble_winAndGoals [⟨4, 8, 2⟩, ⟨1, 7, 1⟩]
  refine ⟨hids, rows, h, ((assemble_shuffled hids ?_ ?_ ?_ ?_ ?_ ?_ ?_).2 rows).mpr h⟩
  · decide
  · decide
  · decide
  · exact List.reverse_perm _
  · exact List.Perm.swap ..
  · exact List.Perm.swap ..
  · exact List.reverse_perm _

end ClubPoints.Ledger
