import ClubPoints.Proofs.Assignments
import ClubPoints.Proofs.Editing
import ClubPoints.Proofs.Recompletion

/-!
# Editing a completed match

The assignments that are shown for editing are those of the completion that brought rows
(`ReadBack`). A ledger depends on no others (`assignments_round_trip`).
-/

namespace ClubPoints

open Form View

def EditableAssignment.assignment (i : EditableAssignment) : Assignment where
  ruleId := i.ruleId
  playerId := i.playerId
  count := i.count

def EditableAssignment.form (i : EditableAssignment) : AssignmentForm where
  ruleId := i.ruleId
  playerId := i.playerId
  count := i.count

def LedgerRow.stored (row : LedgerRow) : StoredEntry where
  playerId := row.playerId
  ruleId := row.ruleId
  pointType := row.pointType
  points := row.points
  isManual := row.isManual
  count := some row.count
  notes := some row.notes

namespace Ledger

/-! ## Reading assignments back from a ledger -/

/-- The points that are edited: those of the team if its profile enables the rule, or else of the
club. -/
def editedType (profiles : List Profile) (ruleId : Int) : PointType :=
  if ∃ p ∈ profiles, p.pointType = .team ∧ p.enables ruleId = true then .team else .club

/-- What is edited of assignments: those that bring rows, in the order of players and rules, with
the points of the row of the team, or else of the club. -/
structure ReadBack (profiles : List Profile) (assignments : List Assignment)
    (rows : List LedgerRow) (items : List EditableAssignment) : Prop where
  order : items.Pairwise fun i j => toLex (i.playerId, i.ruleId) < toLex (j.playerId, j.ruleId)
  item : ∀ i ∈ items, i.assignment ∈ assignments ∧ isKept profiles i.assignment = true
  all : ∀ a ∈ assignments, isKept profiles a = true → ∃ i ∈ items, i.assignment = a
  points : ∀ i ∈ items, ∃ row ∈ rows, row.isManual = true ∧ row.playerId = i.playerId ∧
    row.ruleId = i.ruleId ∧ row.pointType = editedType profiles i.ruleId ∧ row.points = i.points

section

variable {rules : List Rule} {profiles : List Profile} {assignments : List Assignment}
  {r : Registry} {game : MatchFacts} {players : List PlayerFacts} {withAutomatic : Bool}
  {rows : List LedgerRow} {entries : List StoredEntry} {items : List EditableAssignment}
  (h : assemble rules profiles assignments r game players withAutomatic = .ok rows)
include h

theorem byHand_iff {row : LedgerRow} :
    row ∈ rows ∧ row.isManual = true ↔ row ∈ manualRows rules profiles assignments := by
  constructor
  · rintro ⟨hrow, hmanual⟩
    rcases mem_assemble h hrow with hrow | ⟨p, -, rule, -, hrow⟩
    · exact hrow
    · obtain ⟨-, a, -, -, -, rfl⟩ := mem_dueRows hrow
      cases hmanual
  · intro hrow
    obtain ⟨automatic, -, rfl⟩ := assemble_eq_ok.mp h
    refine ⟨List.mem_mergeSort.mpr (List.mem_append_left _ hrow), ?_⟩
    obtain ⟨a, -, -, rule, -, p, -, -, rfl⟩ := mem_manualRows.mp hrow
    rfl

theorem mem_stored_iff
    (hentries : ∀ x, x ∈ entries ↔ ∃ row ∈ rows, row.isManual = true ∧ row.stored = x)
    {x : StoredEntry} :
    x ∈ entries ↔ ∃ a ∈ assignments, 0 < a.count ∧ ∃ rule, rule? rules a.ruleId = some rule ∧
      ∃ p ∈ profiles, p.enables rule.id = true ∧ (a.row rule p).stored = x := by
  have hrows : (∃ row ∈ rows, row.isManual = true ∧ row.stored = x) ↔
      ∃ row ∈ manualRows rules profiles assignments, row.stored = x := by
    refine exists_congr fun row => ?_
    rw [← and_assoc, byHand_iff h]
  rw [hentries, hrows]
  constructor
  · rintro ⟨row, hrow, hx⟩
    obtain ⟨a, ha, hcount, rule, hrule, p, hp, henabled, rfl⟩ := mem_manualRows.mp hrow
    exact ⟨a, ha, hcount, rule, hrule, p, hp, henabled, hx⟩
  · rintro ⟨a, ha, hcount, rule, hrule, p, hp, henabled, hx⟩
    exact ⟨_, mem_manualRows.mpr ⟨a, ha, hcount, rule, hrule, p, hp, henabled, rfl⟩, hx⟩

theorem assignment_of_item
    (hentries : ∀ x, x ∈ entries ↔ ∃ row ∈ rows, row.isManual = true ∧ row.stored = x)
    (hreconciled : Editing.Reconciled entries items) {i : EditableAssignment} (hi : i ∈ items) :
    ∃ a ∈ assignments, 0 < a.count ∧ i.assignment = a ∧
      ∃ rule, rule? rules a.ruleId = some rule ∧ ∃ p ∈ profiles, p.enables rule.id = true ∧
        p.pointType = editedType profiles i.ruleId ∧ (a.row rule p).points = i.points := by
  obtain ⟨e, he, -, hplayer, hrule, hpoints, hcount, hmost⟩ := hreconciled.item i hi
  obtain ⟨a, ha, hacount, rule, hfound, p, hp, henabled, rfl⟩ := (mem_stored_iff h hentries).mp he
  have hid : rule.id = a.ruleId := (rule?_eq_some hfound).2
  have hplayer' : a.playerId = i.playerId := hplayer
  have hrule' : rule.id = i.ruleId := hrule
  have hcount' : a.count = i.count := by injection hcount
  have hassignment : i.assignment = a := by
    rw [EditableAssignment.assignment, ← hplayer', ← hrule', hid, ← hcount']
  refine ⟨a, ha, hacount, hassignment, rule, hfound, p, hp, henabled, ?_, hpoints⟩
  unfold editedType
  by_cases hteam : ∃ q ∈ profiles, q.pointType = .team ∧ q.enables i.ruleId = true
  · obtain ⟨q, hq, htype, hq'⟩ := hteam
    rw [if_pos ⟨q, hq, htype, hq'⟩]
    have hx : (a.row rule q).stored ∈ entries :=
      (mem_stored_iff h hentries).mpr ⟨a, ha, hacount, rule, hfound, q, hq, hrule' ▸ hq', rfl⟩
    -- the entry of the team has the same count, so it does not lose to one of the club
    obtain ⟨n, -, hn, hwins⟩ := hmost _ hx rfl hplayer hrule
    have hn' : a.count = n := by injection hn
    exact hwins (hn'.symm.trans hcount') htype
  · rw [if_neg hteam]
    cases htype : p.pointType with
    | team => exact absurd ⟨p, hp, htype, hrule' ▸ henabled⟩ hteam
    | club => rfl

theorem readBack (hrules : ∀ a ∈ assignments, ∃ rule, rule? rules a.ruleId = some rule)
    (honce : (assignments.map fun a => (a.playerId, a.ruleId)).Nodup)
    (hentries : ∀ x, x ∈ entries ↔ ∃ row ∈ rows, row.isManual = true ∧ row.stored = x)
    (hitems : Editing.reconcile entries = .ok items) :
    ReadBack profiles assignments rows items := by
  have hreconciled := Editing.reconciled_of_ok hitems
  have hsame : ∀ a ∈ assignments, ∀ b ∈ assignments, a.playerId = b.playerId →
      a.ruleId = b.ruleId → a = b := fun a ha b hb hplayer hrule =>
    List.inj_on_of_nodup_map honce ha hb (Prod.ext hplayer hrule)
  refine ⟨hreconciled.order, ?_, ?_, ?_⟩
  · intro i hi
    obtain ⟨a, ha, hcount, rfl, rule, hfound, p, hp, henabled, -⟩ :=
      assignment_of_item h hentries hreconciled hi
    have hid : rule.id = i.assignment.ruleId := (rule?_eq_some hfound).2
    have hany : (profiles.any fun p => p.enables i.assignment.ruleId) = true :=
      List.any_eq_true.mpr ⟨p, hp, hid ▸ henabled⟩
    exact ⟨ha, Bool.and_eq_true_iff.mpr ⟨decide_eq_true hcount, hany⟩⟩
  · intro a ha hkept
    obtain ⟨hcount, hany⟩ := Bool.and_eq_true_iff.mp hkept
    obtain ⟨p, hp, henabled⟩ := List.any_eq_true.mp hany
    obtain ⟨rule, hfound⟩ := hrules a ha
    have hid : rule.id = a.ruleId := (rule?_eq_some hfound).2
    have hx : (a.row rule p).stored ∈ entries := (mem_stored_iff h hentries).mpr
      ⟨a, ha, of_decide_eq_true hcount, rule, hfound, p, hp, hid ▸ henabled, rfl⟩
    obtain ⟨i, hi, hplayer, hrule⟩ := hreconciled.all _ hx rfl
    -- the item is for the same player and rule, hence for the same assignment
    obtain ⟨b, hb, -, hassignment, -⟩ := assignment_of_item h hentries hreconciled hi
    refine ⟨i, hi, hassignment.trans (hsame b hb a ha ?_ ?_)⟩
    · rw [← hassignment]
      exact hplayer
    · rw [← hassignment]
      exact Eq.trans hrule hid
  · intro i hi
    obtain ⟨a, ha, hcount, rfl, rule, hfound, p, hp, henabled, htype, hpoints⟩ :=
      assignment_of_item h hentries hreconciled hi
    have hid : rule.id = i.ruleId := (rule?_eq_some hfound).2
    have hrow := (byHand_iff h).mpr
      (mem_manualRows.mpr ⟨_, ha, hcount, rule, hfound, p, hp, henabled, rfl⟩)
    exact ⟨_, hrow.1, hrow.2, rfl, hid, htype, hpoints⟩

end

theorem ReadBack.perm {profiles : List Profile} {assignments : List Assignment}
    {rows : List LedgerRow} {items : List EditableAssignment}
    (h : ReadBack profiles assignments rows items)
    (honce : (assignments.map fun a => (a.playerId, a.ruleId)).Nodup) :
    (items.map EditableAssignment.assignment).Perm (assignments.filter (isKept profiles)) := by
  have hitems : (items.map EditableAssignment.assignment).Nodup := by
    refine List.pairwise_map.mpr (h.order.imp fun {i j} hij hsame => ?_)
    have hpair : (i.playerId, i.ruleId) = (j.playerId, j.ruleId) :=
      Prod.ext (congrArg Assignment.playerId hsame) (congrArg Assignment.ruleId hsame)
    rw [hpair] at hij
    exact lt_irrefl _ hij
  have hkept : (assignments.filter (isKept profiles)).Nodup := honce.of_map.filter _
  rw [List.perm_ext_iff_of_nodup hitems hkept]
  intro a
  rw [List.mem_filter, List.mem_map]
  constructor
  · rintro ⟨i, hi, rfl⟩
    exact h.item i hi
  · rintro ⟨ha, hkept⟩
    exact h.all a ha hkept

end Ledger

namespace Store

variable {s t : Store} {id : Int} {form : CompletionForm} {withAutomatic : Bool}

/-! ## Reading assignments back from a match -/

theorem Ledgered.rule_found {team : TeamRecord} {rows : List LedgerRow}
    (l : Ledgered s team form withAutomatic rows) {a : AssignmentForm} (ha : a ∈ form.assignments) :
    ∃ rule, Ledger.rule? l.rules a.ruleId = some rule := by
  obtain ⟨r, hr, hid⟩ := l.assigned.rules a ha
  have hmem : a.ruleId ∈ l.rules.map Rule.id := by
    rw [rulesOf_eq_ok l.rules_ok, ← hid]
    exact List.mem_map_of_mem hr
  obtain ⟨rule, hrule, hid⟩ := List.mem_map.mp hmem
  cases hfound : Ledger.rule? l.rules a.ruleId with
  | some rule => exact ⟨rule, rfl⟩
  | none => exact absurd hid (Ledger.rule?_eq_none.mp hfound rule hrule)

theorem stored_entryRecord (row : LedgerRow) (n : Int) :
    EntryRecord.storedEntry? { entryRecord id row (.whole row.points) with id := n } =
      some row.stored := rfl

namespace Completion

variable (c : Completion s id form withAutomatic t)
include c

theorem row_of_entriesOf (hc : s.Configured) {e : EntryRecord} (he : e ∈ t.entriesOf id) :
    ∃ row ∈ c.rows, ∃ n, e = { entryRecord id row (.whole row.points) with id := n } := by
  obtain ⟨he, hmatch⟩ := List.mem_filter.mp he
  rcases (c.mem_entries hc).mp he with he | ⟨-, hother⟩
  · exact c.row_of_entry hc he
  · exact absurd (eq_of_beq hmatch) hother

theorem entriesOf_of_row (hc : s.Configured) {row : LedgerRow} (hrow : row ∈ c.rows) :
    ∃ n, { entryRecord id row (.whole row.points) with id := n } ∈ t.entriesOf id := by
  obtain ⟨e, he, points, n, hpoints, rfl⟩ := exists_of_forall₂ c.entries_numbered.flip row hrow
  rw [hc.earned] at hpoints
  cases hpoints
  exact ⟨n, List.mem_filter.mpr ⟨(c.mem_entries hc).mpr (.inl he), beq_self_eq_true id⟩⟩

theorem stored_entries (hc : s.Configured) :
    ∃ entries, ((t.entriesOf id).filter EntryRecord.isManual).mapM EntryRecord.storedEntry? =
        some entries ∧
      ∀ x, x ∈ entries ↔ ∃ row ∈ c.rows, row.isManual = true ∧ row.stored = x := by
  have hstored : ∀ e ∈ (t.entriesOf id).filter EntryRecord.isManual,
      ∃ x, EntryRecord.storedEntry? e = some x := by
    intro e he
    obtain ⟨row, -, n, rfl⟩ := c.row_of_entriesOf hc (List.mem_filter.mp he).1
    exact ⟨_, stored_entryRecord row n⟩
  obtain ⟨entries, hentries, hmem⟩ := exists_mapM_some hstored
  refine ⟨entries, hentries, fun x => (hmem x).trans ?_⟩
  constructor
  · rintro ⟨e, he, hx⟩
    obtain ⟨he, hmanual⟩ := List.mem_filter.mp he
    obtain ⟨row, hrow, n, rfl⟩ := c.row_of_entriesOf hc he
    rw [stored_entryRecord, Option.some.injEq] at hx
    exact ⟨row, hrow, hmanual, hx⟩
  · rintro ⟨row, hrow, hmanual, rfl⟩
    obtain ⟨n, hn⟩ := c.entriesOf_of_row hc hrow
    exact ⟨_, List.mem_filter.mpr ⟨hn, hmanual⟩, stored_entryRecord row n⟩

theorem readBack (hc : s.Configured) :
    ∃ items, t.editableAssignments id = .ok items ∧
      Ledger.ReadBack (s.scoringProfiles c.team)
        (form.assignments.map AssignmentForm.assignment) c.rows items := by
  obtain ⟨l⟩ := ledgered_of_ok c.ledger
  obtain ⟨entries, hentries, hmem⟩ := c.stored_entries hc
  have hcounts : ∀ e ∈ entries, e.isManual = true → ∃ n, Editing.entryCount e = .ok n := by
    intro e he _
    obtain ⟨row, -, -, rfl⟩ := (hmem e).mp he
    exact ⟨row.count, rfl⟩
  obtain ⟨items, hitems⟩ := Editing.exists_reconcile_iff.mpr hcounts
  refine ⟨items, ?_, Ledger.readBack l.rows_ok ?_ l.assigned_once hmem hitems⟩
  · have hget : t.get MatchRecord id .game = .ok (c.game.completedBy form.facts) :=
      get_eq_ok.mpr ⟨(get_eq_ok.mp c.game_ok).1, c.completed_found⟩
    have hid : (c.game.completedBy form.facts).id = id := c.game_id
    refine bind_eq_ok.mpr ⟨_, hget, ?_⟩
    simp only [hid, hentries]
    exact judge_eq_ok.mpr hitems
  · intro a ha
    obtain ⟨b, hb, rfl⟩ := List.mem_map.mp ha
    exact l.rule_found hb

end Completion

/-! ## Completing a match with what was read back -/

theorem form_mem {profiles : List Profile} {rows : List LedgerRow}
    {items : List EditableAssignment} (h : Ledger.ReadBack profiles
      (form.assignments.map AssignmentForm.assignment) rows items) {i : EditableAssignment}
    (hi : i ∈ items) : i.form ∈ form.assignments := by
  obtain ⟨a, ha, hassignment⟩ := List.mem_map.mp (h.item i hi).1
  have hform : i.form = a := by
    cases a
    cases hassignment
    rfl
  rw [hform]
  exact ha

theorem Ledgered.again {team : TeamRecord} {rows : List LedgerRow}
    (l : Ledgered s team form withAutomatic rows) (hn : s.Numbered)
    {items : List EditableAssignment} (h : Ledger.ReadBack (s.scoringProfiles team)
      (form.assignments.map AssignmentForm.assignment) rows items) :
    s.completionLedger team { form with assignments := items.map EditableAssignment.form }
      withAutomatic = .ok rows := by
  have hassigned : Assigned (s.rosterOf team.id) (s.ruleRecordsOf team.id) []
      (items.map EditableAssignment.form) := by
    refine ⟨?_, ?_, fun _ _ => List.not_mem_nil, ?_⟩
    · intro a ha
      obtain ⟨i, hi, rfl⟩ := List.mem_map.mp ha
      exact l.assigned.players _ (form_mem h hi)
    · intro a ha
      obtain ⟨i, hi, rfl⟩ := List.mem_map.mp ha
      exact l.assigned.rules _ (form_mem h hi)
    · rw [List.map_map]
      exact List.pairwise_map.mpr (h.order.imp fun hij hsame => hij.ne (congrArg toLex hsame))
  have hrows := Ledger.assemble_kept (h.perm l.assigned_once) (l.once hn) l.rows_ok
  simp only [completionLedger, bind_eq_ok, judge_eq_ok, assignmentsOf_eq_ok]
  refine ⟨l.players, l.players_ok, _, ⟨hassigned, rfl⟩, l.rules, l.rules_ok, ?_⟩
  rw [List.map_map]
  exact hrows

/-- A completion that makes the same ledger of the same facts, once more, changes nothing. -/
theorem Completion.again (c : Completion s id form withAutomatic t) (hn : t.Numbered)
    {others : List AssignmentForm}
    (hledger : s.completionLedger c.team { form with assignments := others } withAutomatic =
      .ok c.rows) :
    Nonempty (Completion t id { form with assignments := others } withAutomatic t) := by
  let c' : Completion s id { form with assignments := others } withAutomatic t :=
    { c with ledger := hledger }
  -- the completion of the store before it is carried over to the store after it
  obtain ⟨t', d, ht⟩ := c'.carried c.agree.symm
  have hgame : d.game = c.game.completedBy form.facts := by
    have hfound := d.game_found.symm.trans c.completed_found
    injection hfound
  have hvalues : (d.game.completedBy form.facts).customValues =
      Measure.keptOver c.game.customValues form.facts.customValues := by
    rw [hgame]
    exact Measure.keptOver_twice _ _
  have hself : t'.withCustomValues id (d.game.completedBy form.facts).customValues = t' :=
    withCustomValues_self (hn.completed d) d.completed_found
  have htt : t = t' := by
    rw [hvalues] at hself
    exact ht.trans hself
  exact ⟨htt ▸ d⟩

/-! ## The round trip -/

theorem rowId_whole {n : Int} (h : 0 < n) : rowId (.whole n) = .valid n := by
  change Limit.check (.above 0) (.whole n) n = .valid n
  exact if_pos h

theorem read_editableDocument {i : EditableAssignment} (h : i.form.InBounds) (shape : Shape) :
    AssignmentForm.read shape (editableDocument i) = .valid i.form := by
  have hrule : rowId (.whole i.ruleId) = .valid i.ruleId := rowId_whole h.ruleId
  have hplayer : rowId (.whole i.playerId) = .valid i.playerId := rowId_whole h.playerId
  have hcount : whole [.atLeast 0, .atMost 99] (.whole i.count) = .valid i.count := by
    change Checked.andThen (Limit.check (.atLeast 0) (.whole i.count) i.count)
      (Limit.check (.atMost 99) (.whole i.count)) = _
    rw [show Limit.check (.atLeast 0) (.whole i.count) i.count = .valid i.count from if_pos h.least]
    exact if_pos h.most
  have hfields : shape.fields? (editableDocument i) = some [
      ("rule_id", .whole i.ruleId), ("player_id", .whole i.playerId), ("count", .whole i.count),
      ("points", .whole i.points)] := by
    cases shape <;> rfl
  unfold AssignmentForm.read object
  rw [hfields]
  change AssignmentForm.mk <$> Checked.under _ (rowId (.whole i.ruleId))
    <*> Checked.under _ (rowId (.whole i.playerId))
    <*> Checked.under _ (whole [.atLeast 0, .atMost 99] (.whole i.count)) = _
  rw [hrule, hplayer, hcount]
  rfl

/-- What is shown for editing after a completion: in the order of players and rules one item for each
assignment that counts and whose rule one of the scoring profiles enables, with its count and the
points of its entry for the team if the team's profile enables the rule, or else for the club. -/
structure ItemsOf (s : Store) (team : TeamRecord) (id : Int) (form : CompletionForm) (t : Store)
    (items : List EditableAssignment) : Prop where
  order : items.Pairwise fun i j => toLex (i.playerId, i.ruleId) < toLex (j.playerId, j.ruleId)
  kept : (items.map EditableAssignment.form).Perm (form.assignments.filter fun a =>
    decide (0 < a.count) && (s.scoringProfiles team).any fun p => p.enables a.ruleId)
  points : ∀ i ∈ items, ∃ e ∈ t.entriesOf id, e.isManual = true ∧ e.playerId = i.playerId ∧
    e.ruleId = i.ruleId ∧ e.pointType = Ledger.editedType (s.scoringProfiles team) i.ruleId ∧
    e.points = .whole i.points

theorem Completion.itemsOf (c : Completion s id form withAutomatic t) (hc : s.Configured)
    {items : List EditableAssignment} (h : Ledger.ReadBack (s.scoringProfiles c.team)
      (form.assignments.map AssignmentForm.assignment) c.rows items) :
    s.ItemsOf c.team id form t items := by
  obtain ⟨l⟩ := ledgered_of_ok c.ledger
  refine ⟨h.order, ?_, ?_⟩
  · have hperm := (h.perm l.assigned_once).map fun a =>
      ({ ruleId := a.ruleId, playerId := a.playerId, count := a.count } : AssignmentForm)
    rw [List.filter_map, List.map_map, List.map_map] at hperm
    exact hperm.trans (.of_eq (List.map_id _))
  · intro i hi
    obtain ⟨row, hrow, hmanual, hplayer, hrule, htype, hpoints⟩ := h.points i hi
    obtain ⟨n, hn⟩ := c.entriesOf_of_row hc hrow
    exact ⟨_, hn, hmanual, hplayer, hrule, htype, congrArg Amount.whole hpoints⟩

/-- After a completion its assignments are shown for editing, those that brought entries, and
completing the match with them once more is answered as before and changes nothing. -/
theorem assignments_round_trip (s : Store) (hs : s.Reachable) (x : Arrival) (id : Int)
    (form : CompletionForm) (hx : x.request.action = .ok (.completeMatch id form))
    (h : (s.served x).1.hasStatus 200 = true) :
    ∃ (game : MatchRecord) (team : TeamRecord) (items : List EditableAssignment),
      s.find? id = some game ∧ s.find? game.teamId = some team ∧
      (∀ y : Arrival, y.request.action = .ok (.listAssignments id) →
        (s.served x).2.served y =
          (.shown 200 (Value.listed editableDocument items).presentable, (s.served x).2)) ∧
      s.ItemsOf team id form (s.served x).2 items ∧
      (∀ i ∈ items, ∀ shape, AssignmentForm.read shape (editableDocument i) = .valid i.form) ∧
      ∀ z : Arrival, z.request.action = .ok (.completeMatch id
          { form with assignments := items.map EditableAssignment.form }) →
        z.policy.keepsAutomatic = x.policy.keepsAutomatic → z.isRefused = false →
        (s.served x).2.served z = s.served x := by
  obtain ⟨-, t, c, v, hv, hserved⟩ := completion_of_served hx h
  have ht : (s.served x).2 = t := congrArg Prod.snd hserved
  have htn : t.Numbered := ht ▸ (hs.served x).numbered
  obtain ⟨items, hitems, hread⟩ := c.readBack hs.configured
  obtain ⟨l⟩ := ledgered_of_ok c.ledger
  rw [hserved]
  refine ⟨c.game, c.team, items, c.game_found, c.team_found, ?_, c.itemsOf hs.configured hread, ?_,
    ?_⟩
  · intro y hy
    have hrun : (Action.listAssignments id).run y.policy y.isRefused t =
        .ok { store := t, shown := some (Value.listed editableDocument items) } :=
      Outcome.ofQuery_eq_ok.mpr ⟨_, map_eq_ok.mpr ⟨items, hitems, rfl⟩, rfl⟩
    simp only [Store.served, Request.serve, hy, Action.serve, hrun]
    rfl
  · intro i hi shape
    have hbounds := Request.inBounds_of_action hx
    exact read_editableDocument (hbounds _ (form_mem hread hi)) shape
  · intro z hz hpolicy hrefused
    obtain ⟨d⟩ := c.again htn (l.again hs.numbered hread)
    rw [← hpolicy] at d
    exact served_of_completion hz hrefused d hv

def captainAnd (others : List AssignmentForm) : CompletionForm where
  facts := { goalsFor := 2, stats := [{ playerId := 1 }] }
  assignments := { ruleId := 1, playerId := 1, count := 2 } :: others

def captainAndNothing : Arrival :=
  .posting "/matches/1/complete" (captainAnd [{ ruleId := 2, playerId := 1, count := 0 }]).document

theorem assignments_round_trip_season :
    ∃ items : List EditableAssignment,
      items.map EditableAssignment.form = [{ ruleId := 1, playerId := 1, count := 2 }] ∧
      ((after {} season).served captainAndNothing).2.served
          { request := { method := .get, path := "/matches/1/assignments" } } =
        (.shown 200 (Value.listed editableDocument items).presentable,
          ((after {} season).served captainAndNothing).2) ∧
      ((after {} season).served captainAndNothing).2.served
          (.posting "/matches/1/complete" (captainAnd []).document) =
        (after {} season).served captainAndNothing := by
  have hanswered : ((after {} season).served captainAndNothing).1.hasStatus 200 = true := by
    decide +kernel
  obtain ⟨game, team, items, hgame, hteam, hshown, hitems, -, hagain⟩ :=
    assignments_round_trip (after {} season) ⟨season, rfl⟩ captainAndNothing 1 _ rfl hanswered
  have hforms : items.map EditableAssignment.form =
      [{ ruleId := 1, playerId := 1, count := 2 }] := by
    have hid : ((after {} season).find? 1 : Option MatchRecord).map MatchRecord.teamId = some 1 := by
      decide +kernel
    have henabled : ((after {} season).find? 1 : Option TeamRecord).map (fun team =>
        ((after {} season).scoringProfiles team).any fun p => p.enables 1) = some true := by
      decide +kernel
    rw [hgame, Option.map_some, Option.some.injEq] at hid
    rw [hid] at hteam
    rw [hteam, Option.map_some, Option.some.injEq] at henabled
    have hkept := hitems.kept
    simp only [List.filter_cons, henabled] at hkept
    exact List.perm_singleton.mp hkept
  refine ⟨items, hforms, hshown _ rfl, hagain _ ?_ rfl rfl⟩
  rw [hforms]
  rfl

end Store

end ClubPoints
