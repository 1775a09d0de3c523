import ClubPoints.Ledger
import ClubPoints.Proofs.Ordering
import ClubPoints.Proofs.Outcomes
import Mathlib.Data.List.Perm.Basic
import Mathlib.Data.List.ReduceOption

/-!
# What is in a ledger

The rows of a ledger are the rows by hand and the automatic ones, in the order of their places
(`assemble_eq_ok`). Up to their order the automatic rows of a profile are those that each rule due
in the profile brings at the profile's points (`profileRows_eq_ok`).
-/

namespace ClubPoints

variable {r : Registry} {game : MatchFacts} {players : List PlayerFacts}

/-! ## Items with a key -/

section
variable {α β κ : Type} {key : α → κ} {xs : List α} {x : α}

/-- If the items of every list carry the key of what the list was made of, they are picked by their
key just where that is. -/
theorem filter_flatMap_mark {f : α → List β} {mark : β → κ}
    (hmark : ∀ x ∈ xs, ∀ y ∈ f x, mark y = key x) (keep : κ → Bool) :
    ((xs.flatMap f).filter fun y => keep (mark y)) =
      (xs.filter fun x => keep (key x)).flatMap f := by
  induction xs with
  | nil => rfl
  | cons x rest ih =>
    obtain ⟨hx, hrest⟩ := List.forall_mem_cons.mp hmark
    rw [List.flatMap_cons, List.filter_append, ih hrest, List.filter_cons]
    by_cases hk : keep (key x) = true
    · have hall : (f x).filter (fun y => keep (mark y)) = f x :=
        List.filter_eq_self.mpr fun y hy => by rw [hx y hy, hk]
      rw [hall, if_pos hk, List.flatMap_cons]
    · have hnone : (f x).filter (fun y => keep (mark y)) = [] :=
        List.filter_eq_nil_iff.mpr fun y hy => by rw [hx y hy]; exact hk
      rw [hnone, if_neg hk, List.nil_append]

variable [DecidableEq κ]

theorem filter_flatMap_key {f : α → List β} {mark : β → κ}
    (hmark : ∀ x ∈ xs, ∀ y ∈ f x, mark y = key x) (k : κ) :
    ((xs.flatMap f).filter fun y => decide (mark y = k)) =
      (xs.filter fun x => decide (key x = k)).flatMap f :=
  filter_flatMap_mark hmark fun key => decide (key = k)

theorem filter_key (hn : (xs.map key).Nodup) (hx : x ∈ xs) :
    (xs.filter fun y => decide (key y = key x)) = [x] := by
  obtain ⟨before, after, rfl⟩ := List.append_of_mem hx
  rw [List.map_append, List.map_cons, List.nodup_middle, List.nodup_cons, ← List.map_append] at hn
  have hother : ∀ y ∈ before ++ after, ¬ decide (key y = key x) = true := by
    intro y hy hkey
    apply hn.1
    rw [← of_decide_eq_true hkey]
    exact List.mem_map_of_mem hy
  obtain ⟨hbefore, hafter⟩ := List.forall_mem_append.mp hother
  rw [List.filter_append, List.filter_cons_of_pos (by simp), List.filter_eq_nil_iff.mpr hbefore,
    List.filter_eq_nil_iff.mpr hafter, List.nil_append]

end

/-! ## Awards -/

namespace Rule

variable {rule : Rule}

theorem playerAward?_eq_some {pricing : Pricing} {p : PlayerFacts} {a : Award}
    (h : rule.playerAward? pricing r game p = .ok (some a)) :
    a.ruleId = rule.id ∧ a.playerId = p.playerId := by
  unfold playerAward? at h
  obtain ⟨holds, -, h⟩ := bind_eq_ok.mp h
  cases holds with
  | false => cases h
  | true =>
    obtain ⟨points, -, h⟩ := bind_eq_ok.mp h
    obtain ⟨reason, -, h⟩ := bind_eq_ok.mp h
    cases h
    exact ⟨rfl, rfl⟩

/-- A rule awards its own points to players of the match, in their order and each at most once. -/
theorem awards_eq_ok {awards : List Award} (h : rule.awards r game players = .ok awards) :
    (∀ a ∈ awards, a.ruleId = rule.id) ∧
      (awards.map Award.playerId).Sublist (players.map PlayerFacts.playerId) := by
  have hselected : ((rule.target.select players).map PlayerFacts.playerId).Sublist
      (players.map PlayerFacts.playerId) := List.filter_sublist.map _
  unfold Rule.awards at h
  split at h
  · unfold resultAwards at h
    obtain ⟨holds, -, h⟩ := bind_eq_ok.mp h
    cases holds with
    | false => cases h; exact ⟨nofun, List.nil_sublist _⟩
    | true =>
      obtain ⟨reason, -, h⟩ := bind_eq_ok.mp h
      cases h
      refine ⟨fun a ha => ?_, ?_⟩
      · obtain ⟨p, -, rfl⟩ := List.mem_map.mp ha
        rfl
      · rw [List.map_map]
        exact hselected
  · unfold performanceAwards at h
    obtain ⟨found, hfound, h⟩ := bind_eq_ok.mp h
    cases h
    replace hfound := mapM_eq_ok.mp hfound
    suffices hs : (∀ a ∈ found.reduceOption, a.ruleId = rule.id) ∧
        (found.reduceOption.map Award.playerId).Sublist
          ((rule.target.select players).map PlayerFacts.playerId) from
      ⟨hs.1, hs.2.trans hselected⟩
    clear h hselected
    -- by induction on the selected players, each of whom gets an award or none
    generalize rule.target.select players = chosen at hfound ⊢
    induction hfound with
    | nil => exact ⟨nofun, List.nil_sublist _⟩
    | @cons p o _ rest hp _ ih =>
      cases o with
      | none => exact ⟨ih.1, ih.2.cons _⟩
      | some a =>
        obtain ⟨hrule, hplayer⟩ := playerAward?_eq_some hp
        rw [List.reduceOption_cons_of_some, List.map_cons, List.map_cons, ← hplayer]
        exact ⟨List.forall_mem_cons.mpr ⟨hrule, ih.1⟩, ih.2.cons_cons _⟩
  · cases h; exact ⟨nofun, List.nil_sublist _⟩
  · cases h

theorem mem_found_awards {a : Award} (h : a ∈ found (rule.awards r game players)) :
    a.ruleId = rule.id := by
  cases hs : rule.awards r game players with
  | error fault => rw [hs] at h; cases h
  | ok awards => rw [hs] at h; exact (awards_eq_ok hs).1 a h

end Rule

theorem Award.exists_all_iff {rules : List Rule} :
    (∃ awards, Award.all rules r game players = .ok awards) ↔
      ∀ rule ∈ rules, rule.isActive = true → ∃ awards, rule.awards r game players = .ok awards := by
  have h : (∃ lists, (rules.filter Rule.isActive).mapM (fun rule => rule.awards r game players) =
      .ok lists) ↔ ∀ rule ∈ rules, rule.isActive = true →
        ∃ awards, rule.awards r game players = .ok awards := by
    rw [exists_mapM_iff]
    simp only [List.mem_filter, and_imp]
  rw [← h]
  simp only [Award.all, bind_eq_ok, pure_eq_ok]
  constructor
  · rintro ⟨_, found, hfound, -⟩
    exact ⟨found, hfound⟩
  · rintro ⟨found, hfound⟩
    exact ⟨_, found, hfound, rfl⟩

theorem Award.all_eq_ok {rules : List Rule} {awards : List Award}
    (h : Award.all rules r game players = .ok awards) :
    awards.Perm ((rules.filter Rule.isActive).flatMap fun rule =>
      found (rule.awards r game players)) := by
  simp only [Award.all, bind_eq_ok, pure_eq_ok] at h
  obtain ⟨lists, hlists, rfl⟩ := h
  rw [← flatten_of_mapM hlists]
  exact List.mergeSort_perm ..

def Award.place (a : Award) : Int ×ₗ Int ×ₗ Int ×ₗ String :=
  toLex (a.playerId, toLex (a.ruleId, toLex (a.points, a.reason)))

theorem Award.sortsBy_before : SortsBy Award.before Award.place :=
  (((isLE_compareOn Award.reason).lex (f := Award.points)).lex).lex

theorem Award.sorted_all {rules : List Rule} {awards : List Award}
    (h : Award.all rules r game players = .ok awards) :
    awards.Pairwise fun a b => a.place ≤ b.place := by
  simp only [Award.all, bind_eq_ok, pure_eq_ok] at h
  obtain ⟨lists, -, rfl⟩ := h
  exact Award.sortsBy_before.pairwise_mergeSort _

/-! ## The order of a ledger -/

def LedgerRow.place (row : LedgerRow) : String ×ₗ Int ×ₗ Int ×ₗ Bool :=
  toLex (row.pointType.name, toLex (row.playerId, toLex (row.ruleId, !row.isManual)))

namespace Ledger

variable {rules : List Rule} {profiles : List Profile} {assignments : List Assignment}
  {p : Profile} {rule : Rule}

theorem sortsBy_before : SortsBy before LedgerRow.place :=
  (((isLE_compareOn fun row : LedgerRow => !row.isManual).lex (f := LedgerRow.ruleId)).lex).lex

theorem assemble_eq_ok {withAutomatic : Bool} {rows : List LedgerRow} :
    assemble rules profiles assignments r game players withAutomatic = .ok rows ↔
      ∃ automatic, (if withAutomatic then automaticRows rules profiles assignments r game players
          else .ok []) = .ok automatic ∧
        rows = sort (manualRows rules profiles assignments ++ automatic) := by
  cases withAutomatic <;>
    simp only [assemble, Bool.false_eq_true, ↓reduceIte, bind_eq_ok, pure_eq_ok, eq_comm (a := rows)]

theorem sorted_assemble {withAutomatic : Bool} {rows : List LedgerRow}
    (h : assemble rules profiles assignments r game players withAutomatic = .ok rows) :
    rows.Pairwise fun a b => a.place ≤ b.place := by
  obtain ⟨automatic, -, rfl⟩ := assemble_eq_ok.mp h
  exact sortsBy_before.pairwise_mergeSort _

/-! ## Automatic rows -/

/-- A rule is due in a profile: it scores without being assigned, is active, and is enabled. -/
def isDue (p : Profile) (rule : Rule) : Bool :=
  rule.kind.isAutomatic && (rule.isActive && p.enables rule.id)

theorem judged_eq (rules : List Rule) (p : Profile) :
    ((p.rules (rules.filter fun rule => rule.kind.isAutomatic)).filter Rule.isActive) =
      (rules.filter (isDue p)).map p.reprice := by
  have hactive : ∀ rule ∈ p.rules (rules.filter fun rule => rule.kind.isAutomatic),
      rule.isActive = true := by
    intro rule hrule
    obtain ⟨x, hx, rfl⟩ := List.mem_map.mp hrule
    simp only [List.mem_filter, Bool.and_eq_true] at hx
    exact hx.2.1
  rw [List.filter_eq_self.mpr hactive, Profile.rules, List.filter_filter]
  congr 2
  funext rule
  exact Bool.and_comm ..

theorem isAssigned_iff {a : Award} :
    isAssigned assignments a = true ↔ ∃ x ∈ assignments,
      0 < x.count ∧ x.playerId = a.playerId ∧ x.ruleId = a.ruleId := by
  simp [isAssigned, Assignment.isCounted, and_assoc]

theorem profileRows_eq_ok_iff {rows : List LedgerRow} :
    profileRows rules assignments r game players p = .ok rows ↔
      ∃ awards, Award.all (p.rules rules) r game players = .ok awards ∧
        (awards.filter fun a => !isAssigned assignments a).map (fun a => a.row p) = rows := by
  simp only [profileRows, bind_eq_ok, pure_eq_ok]

theorem exists_automaticRows_iff :
    (∃ rows, automaticRows rules profiles assignments r game players = .ok rows) ↔
      ∀ p ∈ profiles, ∀ rule ∈ rules, isDue p rule = true →
        ∃ awards, (p.reprice rule).awards r game players = .ok awards := by
  have hprofile (p : Profile) : (∃ rows, profileRows (rules.filter fun rule =>
      rule.kind.isAutomatic) assignments r game players p = .ok rows) ↔
      ∀ rule ∈ rules, isDue p rule = true →
        ∃ awards, (p.reprice rule).awards r game players = .ok awards := by
    have h : (∃ rows, profileRows (rules.filter fun rule => rule.kind.isAutomatic) assignments r
        game players p = .ok rows) ↔ ∃ awards, Award.all (p.rules (rules.filter fun rule =>
          rule.kind.isAutomatic)) r game players = .ok awards := by
      simp only [profileRows_eq_ok_iff]
      constructor
      · rintro ⟨_, awards, hawards, -⟩
        exact ⟨awards, hawards⟩
      · rintro ⟨awards, hawards⟩
        exact ⟨_, awards, hawards, rfl⟩
    rw [h, Award.exists_all_iff]
    have hmem (x : Rule) : x ∈ p.rules (rules.filter fun rule => rule.kind.isAutomatic) ∧
        x.isActive = true ↔ ∃ rule ∈ rules, isDue p rule = true ∧ p.reprice rule = x := by
      rw [← List.mem_filter, judged_eq]
      simp only [List.mem_map, List.mem_filter, and_assoc]
    constructor
    · intro hall rule hrule hdue
      obtain ⟨hx, hactive⟩ := (hmem (p.reprice rule)).mpr ⟨rule, hrule, hdue, rfl⟩
      exact hall _ hx hactive
    · intro hall x hx hactive
      obtain ⟨rule, hrule, hdue, rfl⟩ := (hmem x).mp ⟨hx, hactive⟩
      exact hall rule hrule hdue
  simp only [automaticRows, bind_eq_ok, pure_eq_ok]
  rw [← forall₂_congr fun p _ => hprofile p, ← exists_mapM_iff]
  constructor
  · rintro ⟨_, lists, hlists, -⟩
    exact ⟨lists, hlists⟩
  · rintro ⟨lists, hlists⟩
    exact ⟨_, lists, hlists, rfl⟩

def dueRows (assignments : List Assignment) (r : Registry) (game : MatchFacts)
    (players : List PlayerFacts) (p : Profile) (rule : Rule) : List LedgerRow :=
  if isDue p rule then
    ((found ((p.reprice rule).awards r game players)).filter fun a =>
      !isAssigned assignments a).map fun a => a.row p
  else []

theorem profileRows_eq_ok {rows : List LedgerRow}
    (h : profileRows (rules.filter fun rule => rule.kind.isAutomatic) assignments r game players p =
      .ok rows) : rows.Perm (rules.flatMap (dueRows assignments r game players p)) := by
  obtain ⟨awards, hawards, rfl⟩ := profileRows_eq_ok_iff.mp h
  have hperm := ((Award.all_eq_ok hawards).filter fun a => !isAssigned assignments a).map
    fun a => a.row p
  refine hperm.trans (List.Perm.of_eq ?_)
  rw [judged_eq, List.flatMap_map, List.filter_flatMap, List.map_flatMap]
  clear h hperm hawards
  induction rules with
  | nil => rfl
  | cons rule rest ih =>
    rw [List.filter_cons, List.flatMap_cons, dueRows]
    split
    · rw [List.flatMap_cons, ih]
    · rw [List.nil_append, ih]

theorem automaticRows_eq_ok {rows : List LedgerRow}
    (h : automaticRows rules profiles assignments r game players = .ok rows) :
    rows.Perm (profiles.flatMap fun p => rules.flatMap (dueRows assignments r game players p)) := by
  simp only [automaticRows, bind_eq_ok, pure_eq_ok] at h
  obtain ⟨lists, hlists, rfl⟩ := h
  rw [flatten_of_mapM hlists]
  refine List.Perm.flatMap_left _ fun p hp => ?_
  obtain ⟨rows, hrows⟩ := exists_mapM_iff.mp ⟨lists, hlists⟩ p hp
  rw [hrows, found_ok]
  exact profileRows_eq_ok hrows

/-- An automatic row goes to a player of the match for one of the rules, and not where the player has
the rule by hand. -/
theorem mem_dueRows {row : LedgerRow} (h : row ∈ dueRows assignments r game players p rule) :
    isDue p rule = true ∧ ∃ a : Award, a.ruleId = rule.id ∧
      (∃ player ∈ players, player.playerId = a.playerId) ∧
      isAssigned assignments a = false ∧ a.row p = row := by
  unfold dueRows at h
  split at h
  · rename_i hdue
    obtain ⟨a, ha, rfl⟩ := List.mem_map.mp h
    obtain ⟨ha, hassigned⟩ := List.mem_filter.mp ha
    have hrule : a.ruleId = (p.reprice rule).id := Rule.mem_found_awards ha
    refine ⟨hdue, a, hrule, ?_, by simpa using hassigned, rfl⟩
    cases hs : (p.reprice rule).awards r game players with
    | error fault => rw [hs] at ha; cases ha
    | ok awards =>
      rw [hs] at ha
      have hmem := (Rule.awards_eq_ok hs).2.subset (List.mem_map_of_mem ha)
      obtain ⟨player, hplayer, hid⟩ := List.mem_map.mp hmem
      exact ⟨player, hplayer, hid⟩
  · cases h

/-! ## Rows by hand -/

theorem rule?_eq_some {id : Int} (h : rule? rules id = some rule) : rule ∈ rules ∧ rule.id = id :=
  ⟨List.mem_reverse.mp (List.mem_of_find?_eq_some h), by simpa using List.find?_some h⟩

theorem rule?_eq_none {id : Int} : rule? rules id = none ↔ ∀ rule ∈ rules, rule.id ≠ id := by
  simp [rule?, Keyed.find?]

theorem rule?_of_mem (hrules : (rules.map Rule.id).Nodup) (hrule : rule ∈ rules) :
    rule? rules rule.id = some rule := by
  cases h : rule? rules rule.id with
  | none => exact absurd rfl (rule?_eq_none.mp h rule hrule)
  | some other =>
    obtain ⟨hother, hid⟩ := rule?_eq_some h
    rw [List.inj_on_of_nodup_map hrules hother hrule hid]

theorem mem_manualRows {row : LedgerRow} :
    row ∈ manualRows rules profiles assignments ↔
      ∃ a ∈ assignments, 0 < a.count ∧ ∃ rule, rule? rules a.ruleId = some rule ∧
        ∃ p ∈ profiles, p.enables rule.id = true ∧ a.row rule p = row := by
  simp only [manualRows, List.mem_flatMap, List.mem_filter, Assignment.isCounted,
    decide_eq_true_eq, and_assoc]
  refine exists_congr fun a => and_congr_right fun _ => and_congr_right fun _ => ?_
  unfold assignmentRows
  cases rule? rules a.ruleId with
  | none => simp
  | some rule => simp [and_assoc]

theorem of_mem_assignmentRows {a : Assignment} {row : LedgerRow}
    (h : row ∈ assignmentRows rules profiles a) :
    row.playerId = a.playerId ∧ row.ruleId = a.ruleId := by
  unfold assignmentRows at h
  cases hr : rule? rules a.ruleId with
  | none => rw [hr] at h; cases h
  | some rule =>
    rw [hr] at h
    obtain ⟨p, -, rfl⟩ := List.mem_map.mp h
    exact ⟨rfl, (rule?_eq_some hr).2⟩

theorem mem_assemble {withAutomatic : Bool} {rows : List LedgerRow} {row : LedgerRow}
    (h : assemble rules profiles assignments r game players withAutomatic = .ok rows)
    (hrow : row ∈ rows) :
    row ∈ manualRows rules profiles assignments ∨
      ∃ p ∈ profiles, ∃ rule ∈ rules, row ∈ dueRows assignments r game players p rule := by
  obtain ⟨automatic, hautomatic, rfl⟩ := assemble_eq_ok.mp h
  rw [sort, List.mem_mergeSort, List.mem_append] at hrow
  refine hrow.imp_right fun hrow => ?_
  cases withAutomatic with
  | false => cases hautomatic; cases hrow
  | true =>
    simpa only [List.mem_flatMap] using (automaticRows_eq_ok hautomatic).mem_iff.mp hrow

/-! ## One row for each place -/

/-- What a row is for: one type of points, one player and one rule. -/
def slot (row : LedgerRow) : PointType × Int × Int := (row.pointType, row.playerId, row.ruleId)

theorem nodup_slot_manualRows (hprofiles : (profiles.map Profile.pointType).Nodup)
    (hassigned : (assignments.map fun a => (a.playerId, a.ruleId)).Nodup) :
    ((manualRows rules profiles assignments).map slot).Nodup := by
  rw [manualRows, List.map_flatMap, List.nodup_flatMap]
  refine ⟨fun a _ => ?_, ?_⟩
  · unfold assignmentRows
    cases rule? rules a.ruleId with
    | none => exact List.nodup_nil
    | some rule =>
      have hs : ((profiles.filter fun p => p.enables rule.id).map Profile.pointType).Nodup :=
        hprofiles.sublist (List.filter_sublist.map _)
      have hn := hs.map (f := fun t => (t, a.playerId, rule.id)) fun _ _ h => congrArg Prod.fst h
      rw [List.map_map] at hn ⊢
      exact hn
  · refine ((List.pairwise_map.mp hassigned).filter _).imp fun {a b} hab => ?_
    -- rows of different assignments differ in player or rule
    have hpair (a : Assignment) : ∀ x ∈ (assignmentRows rules profiles a).map slot,
        x.2 = (a.playerId, a.ruleId) := by
      intro x hx
      obtain ⟨row, hrow, rfl⟩ := List.mem_map.mp hx
      obtain ⟨hplayer, hrule⟩ := of_mem_assignmentRows hrow
      exact Prod.ext hplayer hrule
    exact fun x hxa hxb => hab ((hpair a x hxa).symm.trans (hpair b x hxb))

theorem nodup_slot_dueRows (hplayers : (players.map PlayerFacts.playerId).Nodup) :
    ((dueRows assignments r game players p rule).map slot).Nodup := by
  unfold dueRows
  split
  · cases hs : (p.reprice rule).awards r game players with
    | error fault => exact List.nodup_nil
    | ok awards =>
      have hids : ((awards.filter fun a => !isAssigned assignments a).map Award.playerId).Nodup :=
        (hplayers.sublist (Rule.awards_eq_ok hs).2).sublist (List.filter_sublist.map _)
      rw [found_ok, List.map_map]
      exact List.pairwise_map.mpr ((List.pairwise_map.mp hids).imp
        fun hab h => hab (congrArg (fun x => x.2.1) h))
  · exact List.nodup_nil

theorem nodup_slot_automatic (hrules : (rules.map Rule.id).Nodup)
    (hprofiles : (profiles.map Profile.pointType).Nodup)
    (hplayers : (players.map PlayerFacts.playerId).Nodup) :
    ((profiles.flatMap fun p => rules.flatMap (dueRows assignments r game players p)).map
      slot).Nodup := by
  have hslot {p : Profile} {rule : Rule} : ∀ x ∈ (dueRows assignments r game players p rule).map
      slot, x.1 = p.pointType ∧ x.2.2 = rule.id := by
    intro x hx
    obtain ⟨row, hrow, rfl⟩ := List.mem_map.mp hx
    obtain ⟨-, a, ha, -, -, rfl⟩ := mem_dueRows hrow
    exact ⟨rfl, ha⟩
  rw [List.map_flatMap, List.nodup_flatMap]
  constructor
  · intro p _
    rw [List.map_flatMap, List.nodup_flatMap]
    refine ⟨fun rule _ => nodup_slot_dueRows hplayers, ?_⟩
    refine (List.pairwise_map.mp hrules).imp fun hab x hxa hxb => hab ?_
    exact (hslot x hxa).2.symm.trans (hslot x hxb).2
  · have hprofile (p : Profile) : ∀ x ∈ (rules.flatMap (dueRows assignments r game players p)).map
        slot, x.1 = p.pointType := by
      intro x hx
      rw [List.map_flatMap] at hx
      obtain ⟨rule, -, hx⟩ := List.mem_flatMap.mp hx
      exact (hslot x hx).1
    exact (List.pairwise_map.mp hprofiles).imp fun {p q} hpq x hxp hxq =>
      hpq ((hprofile p x hxp).symm.trans (hprofile q x hxq))

/-- If nothing that goes in is repeated, a ledger has at most one row for each type of points, player
and rule. -/
theorem nodup_slot {withAutomatic : Bool} {rows : List LedgerRow}
    (hrules : (rules.map Rule.id).Nodup) (hprofiles : (profiles.map Profile.pointType).Nodup)
    (hassigned : (assignments.map fun a => (a.playerId, a.ruleId)).Nodup)
    (hplayers : (players.map PlayerFacts.playerId).Nodup)
    (h : assemble rules profiles assignments r game players withAutomatic = .ok rows) :
    (rows.map slot).Nodup := by
  obtain ⟨automatic, hautomatic, rfl⟩ := assemble_eq_ok.mp h
  have hmanual : ((manualRows rules profiles assignments).map slot).Nodup :=
    nodup_slot_manualRows hprofiles hassigned
  rw [sort, ((List.mergeSort_perm _ _).map slot).nodup_iff, List.map_append]
  cases withAutomatic with
  | false =>
    cases hautomatic
    rw [List.map_nil, List.append_nil]
    exact hmanual
  | true =>
    have hperm := automaticRows_eq_ok hautomatic
    refine List.nodup_append.mpr ⟨hmanual, (hperm.map slot).nodup_iff.mpr
      (nodup_slot_automatic hrules hprofiles hplayers), ?_⟩
    intro x hx y hy hxy
    obtain ⟨row, hrow, rfl⟩ := List.mem_map.mp hx
    obtain ⟨row', hrow', rfl⟩ := List.mem_map.mp hy
    obtain ⟨a, ha, hcount, rule, hrule, p, -, -, rfl⟩ := mem_manualRows.mp hrow
    obtain ⟨q, -, hrow'⟩ := List.mem_flatMap.mp (hperm.mem_iff.mp hrow')
    obtain ⟨rule', -, hrow'⟩ := List.mem_flatMap.mp hrow'
    obtain ⟨-, b, hb, -, hassigned, rfl⟩ := mem_dueRows hrow'
    -- the award's player would have its rule by hand
    have hid := (rule?_eq_some hrule).2
    simp only [slot, Assignment.row, Award.row, Prod.mk.injEq] at hxy
    rw [← Bool.not_eq_true, isAssigned_iff] at hassigned
    exact hassigned ⟨a, ha, hcount, hxy.2.1, hid.symm.trans hxy.2.2⟩

end Ledger

end ClubPoints
