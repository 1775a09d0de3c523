import ClubPoints.Proofs.Ledger

/-!
# A ledger is what is owed

What is owed for a match, said without the ledger's own functions, is what its ledger is made of
(`assemble_owed`).
-/

namespace ClubPoints.Ledger

def enabling? (p : Profile) (ruleId : Int) : Option Override :=
  (p.override? ruleId).filter Override.isEnabled

/-- A row by hand: the count times the points of the override, zero included, or else of the
rule. -/
def rowByHand (a : Assignment) (rule : Rule) (p : Profile) (override : Override) : LedgerRow where
  playerId := a.playerId
  ruleId := rule.id
  points := a.count * override.customPoints.getD rule.points
  pointType := p.pointType
  profileId := p.id
  isManual := true
  count := a.count
  assignmentKey := some s!"{a.playerId}:{rule.id}"
  notes := s!"Manual assignment: {a.count} instances"

def rowOfAward (a : Award) (rule : Rule) (p : Profile) : LedgerRow where
  playerId := a.playerId
  ruleId := rule.id
  points := a.points
  pointType := p.pointType
  profileId := p.id
  isManual := false
  count := 1
  assignmentKey := none
  notes := a.reason

/-- What is owed for assignments. Whether their rules are active does not matter. -/
def owedByHand (rules : List Rule) (profiles : List Profile) (assignments : List Assignment) :
    List LedgerRow :=
  assignments.flatMap fun a => rules.flatMap fun rule => profiles.flatMap fun p =>
    match enabling? p rule.id with
    | some override =>
      if rule.id = a.ruleId ∧ (0 : Int) < a.count then [rowByHand a rule p override] else []
    | none => []

/-- What is owed for the rules that score by themselves: a row for each award that an active rule
has at the points of the override, or else at its own, except to players who have it by hand. -/
def owedAutomatically (rules : List Rule) (profiles : List Profile) (assignments : List Assignment)
    (r : Registry) (game : MatchFacts) (players : List PlayerFacts) : List LedgerRow :=
  profiles.flatMap fun p => rules.flatMap fun rule =>
    match enabling? p rule.id with
    | some override =>
      if rule.isActive && rule.kind.isAutomatic then
        (found ({ rule with points := override.customPoints.getD rule.points }.awards r game
          players)).flatMap fun a =>
            if ∃ x ∈ assignments, 0 < x.count ∧ x.playerId = a.playerId ∧ x.ruleId = rule.id then []
            else [rowOfAward a rule p]
      else []
    | none => []

variable {rules : List Rule} {profiles : List Profile} {assignments : List Assignment}
  {r : Registry} {game : MatchFacts} {players : List PlayerFacts} {p : Profile}

/-! ## Enabled rules and their points -/

theorem enables_eq (p : Profile) (ruleId : Int) :
    p.enables ruleId = (enabling? p ruleId).isSome := by
  unfold Profile.enables enabling?
  cases p.override? ruleId with
  | none => rfl
  | some override => cases h : override.isEnabled <;> simp [h]

theorem pointsFor_eq {rule : Rule} {override : Override}
    (h : enabling? p rule.id = some override) :
    p.pointsFor rule = override.customPoints.getD rule.points := by
  have hover : p.override? rule.id = some override := (Option.filter_eq_some_iff.mp h).1
  unfold Profile.pointsFor
  rw [hover, Option.bind_some]

/-! ## By hand -/

theorem flatMap_rule? {α : Type} (hids : (rules.map Rule.id).Nodup) (id : Int)
    (f : Rule → List α) :
    (rules.flatMap fun rule => if rule.id = id then f rule else []) =
      match rule? rules id with
      | some rule => f rule
      | none => [] := by
  cases h : rule? rules id with
  | none =>
    have hnone := rule?_eq_none.mp h
    exact List.flatMap_eq_nil_iff.mpr fun rule hrule => if_neg (hnone rule hrule)
  | some rule =>
    obtain ⟨hrule, hid⟩ := rule?_eq_some h
    obtain ⟨lower, upper, rfl⟩ := List.append_of_mem hrule
    rw [List.map_append, List.map_cons, List.nodup_middle, List.nodup_cons, hid] at hids
    have hskip : ∀ l : List Rule, (∀ x ∈ l, x ∈ lower ++ upper) →
        (l.flatMap fun rule => if rule.id = id then f rule else []) = [] := fun l hl =>
      List.flatMap_eq_nil_iff.mpr fun x hx => if_neg fun hxid => hids.1 (by
        rw [← List.map_append, ← hxid]
        exact List.mem_map_of_mem (hl x hx))
    rw [List.flatMap_append, List.flatMap_cons, hskip lower fun x => List.mem_append_left _,
      hskip upper fun x => List.mem_append_right _, if_pos hid, List.nil_append, List.append_nil]

theorem owedByHand_eq (hids : (rules.map Rule.id).Nodup) :
    owedByHand rules profiles assignments = manualRows rules profiles assignments := by
  -- the rows of one assignment and one rule
  have hrow (a : Assignment) (rule : Rule) : (profiles.flatMap fun p =>
      match enabling? p rule.id with
      | some override =>
        if rule.id = a.ruleId ∧ (0 : Int) < a.count then [rowByHand a rule p override] else []
      | none => []) =
      if rule.id = a.ruleId then
        if a.isCounted then (profiles.filter fun p => p.enables rule.id).map (a.row rule) else []
      else [] := by
    by_cases hid : rule.id = a.ruleId
    · rw [if_pos hid]
      by_cases hcount : 0 < a.count
      · rw [if_pos (by simpa [Assignment.isCounted] using hcount)]
        induction profiles with
        | nil => rfl
        | cons p rest ih =>
          rw [List.flatMap_cons, ih, List.filter_cons, enables_eq]
          cases h : enabling? p rule.id with
          | none => rfl
          | some override =>
            rw [Option.isSome_some, if_pos rfl, List.map_cons]
            simp only [hcount, hid, and_self, ↓reduceIte, rowByHand, Assignment.row, pointsFor_eq h]
            rfl
      · rw [if_neg (by simpa [Assignment.isCounted] using hcount)]
        refine List.flatMap_eq_nil_iff.mpr fun p _ => ?_
        cases enabling? p rule.id <;> simp [hcount]
    · rw [if_neg hid]
      refine List.flatMap_eq_nil_iff.mpr fun p _ => ?_
      cases enabling? p rule.id <;> simp [hid]
  have hone (a : Assignment) : (rules.flatMap fun rule => if rule.id = a.ruleId then
      if a.isCounted then (profiles.filter fun p => p.enables rule.id).map (a.row rule) else []
      else []) = if a.isCounted then assignmentRows rules profiles a else [] := by
    rw [flatMap_rule? hids]
    unfold assignmentRows
    cases rule? rules a.ruleId <;> cases a.isCounted <;> rfl
  unfold owedByHand manualRows
  simp only [hrow, hone]
  induction assignments with
  | nil => rfl
  | cons a rest ih =>
    rw [List.flatMap_cons, ih, List.filter_cons]
    cases a.isCounted <;> rfl

/-! ## Automatically -/

theorem owedAutomatically_eq :
    owedAutomatically rules profiles assignments r game players =
      profiles.flatMap fun p => rules.flatMap (dueRows assignments r game players p) := by
  unfold owedAutomatically
  congr 1
  funext p
  congr 1
  funext rule
  unfold dueRows isDue
  rw [enables_eq]
  cases h : enabling? p rule.id with
  | none => simp
  | some override =>
    have hreprice : { rule with points := override.customPoints.getD rule.points } =
        p.reprice rule := by rw [Profile.reprice, pointsFor_eq h]
    dsimp only
    rw [Option.isSome_some, Bool.and_true, Bool.and_comm rule.kind.isAutomatic, hreprice]
    split
    · have hmem : ∀ a ∈ found ((p.reprice rule).awards r game players), a.ruleId = rule.id :=
        fun _ ha => (Rule.mem_found_awards ha).trans rfl
      -- all awards are of this rule, so whether one is assigned depends on its player only
      generalize found ((p.reprice rule).awards r game players) = awards at hmem
      induction awards with
      | nil => rfl
      | cons a rest ih =>
        obtain ⟨ha, hrest⟩ := List.forall_mem_cons.mp hmem
        rw [List.flatMap_cons, ih hrest, List.filter_cons]
        have hassigned : (∃ x ∈ assignments, 0 < x.count ∧ x.playerId = a.playerId ∧
            x.ruleId = rule.id) ↔ isAssigned assignments a = true := by
          rw [isAssigned_iff, ha]
        by_cases hx : isAssigned assignments a = true
        · rw [if_pos (hassigned.mpr hx), hx]
          rfl
        · have hrow : rowOfAward a rule p = a.row p := by rw [rowOfAward, ← ha]; rfl
          rw [if_neg (mt hassigned.mp hx), Bool.eq_false_of_not_eq_true hx, hrow]
          rfl
    · rfl

/-! ## The whole ledger -/

/-- A ledger is made exactly when all due rules can be judged; it is then what is owed by hand and
automatically, in the order of type of points, player and rule, by hand first. -/
theorem assemble_owed (rules : List Rule) (profiles : List Profile) (assignments : List Assignment)
    (r : Registry) (game : MatchFacts) (players : List PlayerFacts)
    (hids : (rules.map Rule.id).Nodup) :
    ((∃ rows, assemble rules profiles assignments r game players true = .ok rows) ↔
      ∀ p ∈ profiles, ∀ rule ∈ rules, ∀ override, enabling? p rule.id = some override →
        rule.isActive = true → rule.kind.isAutomatic = true →
        ∃ awards, { rule with points := override.customPoints.getD rule.points }.awards r game
          players = .ok awards) ∧
    ∀ rows, assemble rules profiles assignments r game players true = .ok rows →
      rows.Perm (owedByHand rules profiles assignments ++
        owedAutomatically rules profiles assignments r game players) ∧
      rows.Pairwise fun a b => a.place ≤ b.place := by
  constructor
  · have h : (∃ rows, assemble rules profiles assignments r game players true = .ok rows) ↔
        ∃ rows, automaticRows rules profiles assignments r game players = .ok rows := by
      simp only [assemble_eq_ok, ↓reduceIte]
      exact ⟨fun ⟨_, l, hl, _⟩ => ⟨l, hl⟩, fun ⟨l, hl⟩ => ⟨_, l, hl, rfl⟩⟩
    rw [h, exists_automaticRows_iff]
    refine forall₂_congr fun p _ => forall₂_congr fun rule _ => ?_
    rw [isDue, enables_eq]
    cases hover : enabling? p rule.id with
    | none => simp
    | some override =>
      rw [Profile.reprice, pointsFor_eq hover]
      simp [and_imp, imp.swap]
  · intro rows h
    obtain ⟨automatic, hautomatic, rfl⟩ := assemble_eq_ok.mp h
    refine ⟨?_, sortsBy_before.pairwise_mergeSort _⟩
    rw [owedByHand_eq hids, owedAutomatically_eq]
    exact (List.mergeSort_perm ..).trans ((automaticRows_eq_ok hautomatic).append_left _)

def captainAndPlayer : List Rule := [
  { id := 1, name := "Captain", points := 5, isActive := false, kind := .manual },
  { id := 2, name := "Player", points := 3, kind := .performance .flat }]

def bothEnabled : Profile where
  id := 4
  pointType := .team
  overrides := [{ ruleId := 1, customPoints := some 0 }, { ruleId := 2 }]

theorem assemble_owed_captainAndPlayer :
    (captainAndPlayer.map Rule.id).Nodup ∧
      ∃ rows, assemble captainAndPlayer [bothEnabled] [⟨1, 7, 2⟩, ⟨2, 8, 1⟩, ⟨2, 7, 0⟩] {} {}
          [{ playerId := 7 }, { playerId := 8 }] true = .ok rows ∧
        rows.Perm [
          ⟨7, 1, 0, .team, 4, true, 2, some "7:1", "Manual assignment: 2 instances"⟩,
          ⟨8, 2, 3, .team, 4, true, 1, some "8:2", "Manual assignment: 1 instances"⟩,
          ⟨7, 2, 3, .team, 4, false, 1, none, "Player"⟩] ∧
        rows.Pairwise fun a b => a.place ≤ b.place := by
  have hids : (captainAndPlayer.map Rule.id).Nodup := by decide
  obtain ⟨hmade, howed⟩ := assemble_owed captainAndPlayer [bothEnabled]
    [⟨1, 7, 2⟩, ⟨2, 8, 1⟩, ⟨2, 7, 0⟩] {} {} [{ playerId := 7 }, { playerId := 8 }] hids
  have hjudged : ∀ rule ∈ captainAndPlayer, ∀ override, enabling? bothEnabled rule.id =
      some override → rule.isActive = true → rule.kind.isAutomatic = true →
      ∃ awards, { rule with points := override.customPoints.getD rule.points }.awards {} {}
        [{ playerId := 7 }, { playerId := 8 }] = .ok awards := by
    intro rule hrule override _ _ _
    simp only [captainAndPlayer, List.mem_cons, List.not_mem_nil, or_false] at hrule
    rcases hrule with rfl | rfl <;> exact ⟨_, rfl⟩
  obtain ⟨rows, hrows⟩ := hmade.mpr (by simpa using hjudged)
  obtain ⟨hperm, hsorted⟩ := howed rows hrows
  exact ⟨hids, rows, hrows, hperm.trans (List.Perm.of_eq (by decide +kernel)), hsorted⟩

end ClubPoints.Ledger
