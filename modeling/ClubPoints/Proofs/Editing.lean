import ClubPoints.Editing
import ClubPoints.Proofs.Ordering
import ClubPoints.Proofs.Outcomes
import Mathlib.Data.List.Induction
import Mathlib.Order.Bounds.Defs

/-!
# Reconciling the entries of a match

Entries contest one after another, and for each player and rule the first with the largest count
wins (`Contested`). They are sorted before, so among those with the largest count a team entry wins
if there is one (`Reconciled`).
-/

namespace ClubPoints

namespace Keyed

variable {α κ : Type} [DecidableEq κ] {key : α → κ} {x y : α} {xs : List α}

theorem map_place (h : key x ∈ xs.map key) : (place key x xs).map key = xs.map key := by
  induction xs with
  | nil => cases h
  | cons y rest ih =>
    rw [place]
    by_cases hy : key y = key x
    · rw [if_pos hy, List.map_cons, List.map_cons, hy]
    · have hrest : key x ∈ rest.map key := by
        rcases List.mem_cons.mp h with h | h
        · exact absurd h.symm hy
        · exact h
      rw [if_neg hy, List.map_cons, List.map_cons, ih hrest]

theorem mem_place (h : y ∈ place key x xs) (hn : (xs.map key).Nodup) :
    y = x ∨ y ∈ xs ∧ key y ≠ key x := by
  induction xs with
  | nil => exact .inl (List.mem_singleton.mp h)
  | cons z rest ih =>
    obtain ⟨hz, hrest⟩ := List.nodup_cons.mp hn
    rw [place] at h
    by_cases hzx : key z = key x
    · rw [if_pos hzx] at h
      rcases List.mem_cons.mp h with h | h
      · exact .inl h
      · have hyx : key y ≠ key x := fun hyx =>
          hz (hzx.trans hyx.symm ▸ List.mem_map_of_mem h)
        exact .inr ⟨List.mem_cons_of_mem _ h, hyx⟩
    · rw [if_neg hzx] at h
      rcases List.mem_cons.mp h with h | h
      · rw [h]
        exact .inr ⟨List.mem_cons_self, hzx⟩
      · rcases ih h hrest with h | ⟨h, hyx⟩
        · exact .inl h
        · exact .inr ⟨List.mem_cons_of_mem _ h, hyx⟩

end Keyed

namespace Editing

/-! ## The contest -/

def key (x : Counted) : Int × Int := pair x.1

/-- An entry wins: those of its player and rule before it count less, and those after it no more. -/
def Wins (entries : List Counted) (w : Counted) : Prop :=
  ∃ earlier later, entries = earlier ++ w :: later ∧
    (∀ x ∈ earlier, key x = key w → x.2 < w.2) ∧ ∀ x ∈ later, key x = key w → x.2 ≤ w.2

namespace Wins

variable {entries : List Counted} {w x : Counted}

theorem mem (h : Wins entries w) : w ∈ entries := by
  obtain ⟨earlier, later, rfl, -⟩ := h
  simp

theorem most (h : Wins entries w) (hx : x ∈ entries) (hkey : key x = key w) : x.2 ≤ w.2 := by
  obtain ⟨earlier, later, rfl, hearlier, hlater⟩ := h
  rcases List.mem_append.mp hx with hx | hx
  · exact (hearlier x hx hkey).le
  · rcases List.mem_cons.mp hx with rfl | hx
    · exact le_refl _
    · exact hlater x hx hkey

theorem still (h : Wins entries w) (hx : key x = key w → x.2 ≤ w.2) : Wins (entries ++ [x]) w := by
  obtain ⟨earlier, later, rfl, hearlier, hlater⟩ := h
  refine ⟨earlier, later ++ [x], by simp, hearlier, ?_⟩
  intro y hy hkey
  rcases List.mem_append.mp hy with hy | hy
  · exact hlater y hy hkey
  · cases List.mem_singleton.mp hy
    exact hx hkey

theorem last (h : ∀ y ∈ entries, key y = key x → y.2 < x.2) : Wins (entries ++ [x]) x :=
  ⟨entries, [], rfl, h, fun _ hy => absurd hy List.not_mem_nil⟩

end Wins

/-- What is known of the winners after some entries: for each player and rule one entry that wins, in
the order in which players and rules appeared. -/
structure Contested (entries winners : List Counted) : Prop where
  order : (winners.map key).Sublist (entries.map key)
  once : (winners.map key).Nodup
  all : ∀ x ∈ entries, key x ∈ winners.map key
  wins : ∀ w ∈ winners, Wins entries w

namespace Contested

variable {entries winners : List Counted} {x : Counted}

variable (h : Contested entries winners)
include h

theorem joined (hfresh : ∀ w ∈ winners, key w ≠ key x) :
    Contested (entries ++ [x]) (winners ++ [x]) := by
  have hnone : ∀ y ∈ entries, key y ≠ key x := by
    intro y hy hkey
    obtain ⟨w, hw, hwy⟩ := List.mem_map.mp (h.all y hy)
    exact hfresh w hw (hwy.trans hkey)
  refine ⟨?_, ?_, ?_, ?_⟩
  · rw [List.map_append, List.map_append]
    exact h.order.append_right _
  · rw [List.map_append, List.nodup_append]
    refine ⟨h.once, List.nodup_singleton _, ?_⟩
    intro k hk k' hk'
    obtain ⟨w, hw, rfl⟩ := List.mem_map.mp hk
    cases List.mem_singleton.mp hk'
    exact hfresh w hw
  · intro y hy
    rw [List.map_append, List.mem_append]
    rcases List.mem_append.mp hy with hy | hy
    · exact .inl (h.all y hy)
    · cases List.mem_singleton.mp hy
      exact .inr List.mem_cons_self
  · intro w hw
    rcases List.mem_append.mp hw with hw | hw
    · exact (h.wins w hw).still fun hkey => absurd hkey.symm (hfresh w hw)
    · cases List.mem_singleton.mp hw
      exact .last fun y hy hkey => absurd hkey (hnone y hy)

theorem reordered {others : List Counted} (hkeys : others.map key = winners.map key)
    (hx : key x ∈ winners.map key) (hwins : ∀ w ∈ others, Wins (entries ++ [x]) w) :
    Contested (entries ++ [x]) others := by
  refine ⟨?_, ?_, ?_, hwins⟩
  · rw [hkeys, List.map_append]
    exact h.order.trans (List.sublist_append_left _ _)
  · rw [hkeys]
    exact h.once
  · intro y hy
    rw [hkeys]
    rcases List.mem_append.mp hy with hy | hy
    · exact h.all y hy
    · cases List.mem_singleton.mp hy
      exact hx

theorem replaced {w : Counted} (hw : w ∈ winners) (hkey : key w = key x) (hless : w.2 < x.2) :
    Contested (entries ++ [x]) (Keyed.place key x winners) := by
  have hx : key x ∈ winners.map key := hkey ▸ List.mem_map_of_mem hw
  apply h.reordered (Keyed.map_place hx) hx
  intro v hv
  rcases Keyed.mem_place hv h.once with rfl | ⟨hv, hne⟩
  · apply Wins.last
    intro y hy hyv
    have hmost : y.2 ≤ w.2 := (h.wins w hw).most hy (hyv.trans hkey.symm)
    exact hmost.trans_lt hless
  · exact (h.wins v hv).still fun hxv => absurd hxv.symm hne

theorem kept {w : Counted} (hw : w ∈ winners) (hkey : key w = key x) (hle : x.2 ≤ w.2) :
    Contested (entries ++ [x]) winners := by
  apply h.reordered rfl (hkey ▸ List.mem_map_of_mem hw)
  intro v hv
  apply (h.wins v hv).still
  intro hxv
  have hvw : v = w := List.inj_on_of_nodup_map h.once hv hw (hxv.symm.trans hkey.symm)
  rw [hvw]
  exact hle

theorem step (x : Counted) : Contested (entries ++ [x]) (contest winners x) := by
  unfold contest
  cases hfind : Keyed.find? (fun w : Counted => pair w.1) (pair x.1) winners with
  | none => exact h.joined (Keyed.find?_eq_none.mp hfind)
  | some w =>
    obtain ⟨hw, hkey⟩ : w ∈ winners ∧ key w = key x := Keyed.find?_eq_some hfind
    by_cases hless : w.2 < x.2
    · simp only [hless, ↓reduceIte]
      exact h.replaced hw hkey hless
    · simp only [hless, ↓reduceIte]
      exact h.kept hw hkey (not_lt.mp hless)

omit h in
theorem foldl (entries : List Counted) : Contested entries (entries.foldl contest []) := by
  induction entries using List.reverseRecOn with
  | nil =>
    have hnone : ∀ x : Counted, x ∉ ([] : List Counted) := fun _ => List.not_mem_nil
    exact ⟨List.Sublist.refl _, List.nodup_nil, fun x hx => absurd hx (hnone x),
      fun w hw => absurd hw (hnone w)⟩
  | append_singleton entries x ih =>
    rw [List.foldl_append]
    exact ih.step x

end Contested

/-! ## The assignments that are left -/

def place (e : StoredEntry) : Int ×ₗ Int ×ₗ Bool :=
  toLex (e.playerId, toLex (e.ruleId, decide (e.pointType ≠ .team)))

theorem sortsBy_before : SortsBy before place :=
  ((isLE_compareOn fun e : StoredEntry => decide (e.pointType ≠ .team)).lex
    (f := StoredEntry.ruleId)).lex

theorem pair_le_of_place_le {e x : StoredEntry} (h : place e ≤ place x) :
    toLex (pair e) ≤ toLex (pair x) := by
  simp only [place, pair, Prod.Lex.toLex_le_toLex] at h ⊢
  rcases h with h | ⟨hplayer, h | ⟨hrule, -⟩⟩
  · exact .inl h
  · exact .inr ⟨hplayer, h.le⟩
  · exact .inr ⟨hplayer, hrule.le⟩

theorem team_of_place_le {e x : StoredEntry} (h : place e ≤ place x) (hpair : pair e = pair x)
    (hteam : x.pointType = .team) : e.pointType = .team := by
  obtain ⟨hplayer, hrule⟩ := Prod.mk.inj hpair
  simp only [place, hplayer, hrule, hteam, Prod.Lex.toLex_le_toLex, lt_self_iff_false, false_or,
    true_and] at h
  by_contra hclub
  rw [decide_eq_true hclub] at h
  exact absurd h (by decide)

theorem reconcile_eq_ok {entries : List StoredEntry} {items : List EditableAssignment} :
    reconcile entries = .ok items ↔
      ∃ counted : List Counted,
        List.Forall₂ (fun e x => ∃ n, entryCount e = .ok n ∧ (e, n) = x)
          ((entries.filter StoredEntry.isManual).mergeSort before) counted ∧
        (counted.foldl contest []).map editable = items := by
  simp only [reconcile, bind_eq_ok, pure_eq_ok, mapM_eq_ok, map_eq_ok]

theorem exists_reconcile_iff {entries : List StoredEntry} :
    (∃ items, reconcile entries = .ok items) ↔
      ∀ e ∈ entries, e.isManual = true → ∃ n, entryCount e = .ok n := by
  have h : (∃ counted, ((entries.filter StoredEntry.isManual).mergeSort before).mapM
      (fun e => (entryCount e).map fun n => (e, n)) = .ok counted) ↔
      ∀ e ∈ entries, e.isManual = true → ∃ n, entryCount e = .ok n := by
    rw [exists_mapM_iff]
    simp only [List.mem_mergeSort, List.mem_filter, map_eq_ok, and_imp]
    refine forall₃_congr fun e _ _ => ?_
    constructor
    · rintro ⟨_, n, hn, -⟩
      exact ⟨n, hn⟩
    · rintro ⟨n, hn⟩
      exact ⟨_, n, hn, rfl⟩
  rw [← h]
  simp only [reconcile, bind_eq_ok, pure_eq_ok]
  constructor
  · rintro ⟨_, counted, hcounted, -⟩
    exact ⟨counted, hcounted⟩
  · rintro ⟨counted, hcounted⟩
    exact ⟨_, counted, hcounted, rfl⟩

/-- What reconciling gives: one assignment for each player and rule with an entry by hand, in their
order, with the largest count that such an entry has and the points of one that has it, of a team
entry if one has it. -/
structure Reconciled (entries : List StoredEntry) (items : List EditableAssignment) : Prop where
  order : items.Pairwise fun i j => toLex (i.playerId, i.ruleId) < toLex (j.playerId, j.ruleId)
  all : ∀ e ∈ entries, e.isManual = true → ∃ i ∈ items, i.playerId = e.playerId ∧
    i.ruleId = e.ruleId
  item : ∀ i ∈ items, ∃ e ∈ entries, e.isManual = true ∧ e.playerId = i.playerId ∧
    e.ruleId = i.ruleId ∧ e.points = i.points ∧ entryCount e = .ok i.count ∧
    ∀ x ∈ entries, x.isManual = true → x.playerId = i.playerId → x.ruleId = i.ruleId →
      ∃ n ≤ i.count, entryCount x = .ok n ∧
        (n = i.count → x.pointType = .team → e.pointType = .team)

theorem reconciled_of_ok {entries : List StoredEntry} {items : List EditableAssignment}
    (h : reconcile entries = .ok items) : Reconciled entries items := by
  obtain ⟨counted, hcounted, rfl⟩ := reconcile_eq_ok.mp h
  have hentries : counted.map Prod.fst = (entries.filter StoredEntry.isManual).mergeSort before :=
    (map_eq_of_forall₂ hcounted fun e x ⟨n, _, hx⟩ => by rw [← hx]; rfl).trans (List.map_id _)
  have hcount : ∀ x ∈ counted, entryCount x.1 = .ok x.2 := by
    intro x hx
    obtain ⟨e, -, n, hn, rfl⟩ := exists_of_forall₂ hcounted x hx
    exact hn
  have hmem : ∀ e, e ∈ counted.map Prod.fst ↔ e ∈ entries ∧ e.isManual = true := fun e => by
    rw [hentries, List.mem_mergeSort, List.mem_filter]
  have hsorted : counted.Pairwise fun x y => place x.1 ≤ place y.1 := by
    have hs := sortsBy_before.pairwise_mergeSort (entries.filter StoredEntry.isManual)
    rw [← hentries, List.pairwise_map] at hs
    exact hs
  have hc := Contested.foldl counted
  generalize counted.foldl contest [] = winners at hc
  constructor
  case order =>
    have hkeys : (counted.map key).Pairwise fun a b => toLex a ≤ toLex b := by
      rw [List.pairwise_map]
      exact hsorted.imp pair_le_of_place_le
    have hstrict : (winners.map key).Pairwise fun a b => toLex a < toLex b :=
      ((hkeys.sublist hc.order).and hc.once).imp fun ⟨hle, hne⟩ =>
        lt_of_le_of_ne hle fun heq => hne (toLex.injective heq)
    rw [List.pairwise_map] at hstrict ⊢
    exact hstrict
  case all =>
    intro e he hmanual
    obtain ⟨x, hx, rfl⟩ := List.mem_map.mp ((hmem e).mpr ⟨he, hmanual⟩)
    obtain ⟨w, hw, hkey⟩ := List.mem_map.mp (hc.all x hx)
    exact ⟨editable w, List.mem_map_of_mem hw, congrArg Prod.fst hkey, congrArg Prod.snd hkey⟩
  case item =>
    intro i hi
    obtain ⟨w, hw, rfl⟩ := List.mem_map.mp hi
    have hwins := hc.wins w hw
    obtain ⟨he, hmanual⟩ := (hmem w.1).mp (List.mem_map_of_mem hwins.mem)
    refine ⟨w.1, he, hmanual, rfl, rfl, rfl, hcount w hwins.mem, ?_⟩
    intro e he hmanual hplayer hrule
    obtain ⟨x, hx, rfl⟩ := List.mem_map.mp ((hmem e).mpr ⟨he, hmanual⟩)
    have hkey : key x = key w := Prod.ext hplayer hrule
    refine ⟨x.2, hwins.most hx hkey, hcount x hx, fun hn hteam => ?_⟩
    -- with an equal count `x` stands behind the winner, and there the order has the team first
    obtain ⟨earlier, later, rfl, hearlier, -⟩ := hwins
    rcases List.mem_append.mp hx with hx | hx
    · exact absurd hn (hearlier x hx hkey).ne
    · rcases List.mem_cons.mp hx with rfl | hx
      · exact hteam
      · have hwx : place w.1 ≤ place x.1 :=
          (List.pairwise_cons.mp (List.pairwise_append.mp hsorted).2.1).1 x hx
        exact team_of_place_le hwx hkey.symm hteam

/-! ## The largest count, whatever the order -/

def Readable (e : StoredEntry) : Prop :=
  e.count = none → ∀ digits ∈ e.notes.bind fun s => instances? s.toList,
    digits.length ≤ Numeral.digitLimit

instance : DecidablePred Readable := fun e =>
  inferInstanceAs (Decidable (e.count = none → ∀ digits ∈ e.notes.bind fun s =>
    instances? s.toList, digits.length ≤ Numeral.digitLimit))

theorem exists_entryCount_iff {e : StoredEntry} :
    (∃ n, entryCount e = .ok n) ↔ Readable e := by
  unfold entryCount Readable
  cases hcount : e.count with
  | some n => simp
  | none =>
    unfold instanceCount
    cases hdigits : e.notes.bind fun s => instances? s.toList with
    | none => simp
    | some digits =>
      by_cases hlong : Numeral.digitLimit < digits.length
      · simp [hlong]
      · simpa [hlong] using not_lt.mp hlong

def group (entries : List StoredEntry) (p : Int × Int) : List StoredEntry :=
  entries.filter fun e => e.isManual && decide (pair e = p)

theorem mem_group {entries : List StoredEntry} {p : Int × Int} {e : StoredEntry} :
    e ∈ group entries p ↔ e ∈ entries ∧ e.isManual = true ∧ pair e = p := by
  simp [group]

def slot (e : StoredEntry) : Int × Int × PointType := (e.playerId, e.ruleId, e.pointType)

theorem slot_eq_of_place_eq {e x : StoredEntry} (h : place e = place x) : slot e = slot x := by
  obtain ⟨hplayer, hrest⟩ := Prod.mk.inj (toLex.injective h)
  obtain ⟨hrule, htype⟩ := Prod.mk.inj (toLex.injective hrest)
  have htype : e.pointType = x.pointType := by
    cases he : e.pointType <;> cases hx : x.pointType <;> simp [he, hx] at htype ⊢
  simp only [slot, hplayer, hrule, htype]

/-- Entries by hand that differ in player, rule or point type have one order only, so it does not
matter in which order they come. -/
theorem reconcile_perm {entries others : List StoredEntry} (hp : others.Perm entries)
    (hn : ((entries.filter StoredEntry.isManual).map slot).Nodup) :
    reconcile others = reconcile entries := by
  have hplaces : ((entries.filter StoredEntry.isManual).map place).Nodup := by
    rw [List.Nodup, List.pairwise_map] at hn ⊢
    exact hn.imp fun hne heq => hne (slot_eq_of_place_eq heq)
  rw [reconcile, reconcile, sortsBy_before.mergeSort_congr (hp.filter _) hplaces]

/-- Entries whose counts can be read leave one assignment for each player and rule with an entry by
hand, in strict order. Its count is the largest of its group and its points are those of an entry
with that count, of a team entry if one has it. The order of the entries is of no matter if no two
by hand have player, rule and point type in common. -/
theorem reconcile_takes_largest {entries : List StoredEntry}
    (hread : ∀ e ∈ entries, e.isManual = true → Readable e) :
    ∃ items, reconcile entries = .ok items ∧
      (items.Pairwise fun i j => toLex (i.playerId, i.ruleId) < toLex (j.playerId, j.ruleId)) ∧
      (∀ p, p ∈ items.map (fun i => (i.playerId, i.ruleId)) ↔ group entries p ≠ []) ∧
      (∀ i ∈ items,
        IsGreatest {n | ∃ e ∈ group entries (i.playerId, i.ruleId), entryCount e = .ok n} i.count ∧
        ∃ e ∈ group entries (i.playerId, i.ruleId), entryCount e = .ok i.count ∧
          e.points = i.points ∧
          ((∃ x ∈ group entries (i.playerId, i.ruleId), entryCount x = .ok i.count ∧
            x.pointType = .team) → e.pointType = .team)) ∧
      (((entries.filter StoredEntry.isManual).map slot).Nodup →
        ∀ others : List StoredEntry, others.Perm entries → reconcile others = .ok items) := by
  obtain ⟨items, hitems⟩ := exists_reconcile_iff.mpr fun e he hmanual =>
    exists_entryCount_iff.mpr (hread e he hmanual)
  have hr := reconciled_of_ok hitems
  refine ⟨items, hitems, hr.order, fun p => ?_, fun i hi => ?_, fun hn others hp => ?_⟩
  · rw [List.mem_map]
    constructor
    · rintro ⟨i, hi, rfl⟩
      obtain ⟨e, he, hmanual, hplayer, hrule, -⟩ := hr.item i hi
      exact List.ne_nil_of_mem (mem_group.mpr ⟨he, hmanual, Prod.ext hplayer hrule⟩)
    · intro hgroup
      obtain ⟨e, he⟩ := List.exists_mem_of_ne_nil _ hgroup
      obtain ⟨hentry, hmanual, hpair⟩ := mem_group.mp he
      obtain ⟨i, hi, hplayer, hrule⟩ := hr.all e hentry hmanual
      exact ⟨i, hi, (Prod.ext hplayer hrule).trans hpair⟩
  · obtain ⟨e, he, hmanual, hplayer, hrule, hpoints, hcount, hmost⟩ := hr.item i hi
    have hgroup : e ∈ group entries (i.playerId, i.ruleId) :=
      mem_group.mpr ⟨he, hmanual, Prod.ext hplayer hrule⟩
    have hmost : ∀ x ∈ group entries (i.playerId, i.ruleId), ∃ n ≤ i.count,
        entryCount x = .ok n ∧ (n = i.count → x.pointType = .team → e.pointType = .team) := by
      intro x hx
      obtain ⟨hx, hmanual, hpair⟩ := mem_group.mp hx
      exact hmost x hx hmanual (congrArg Prod.fst hpair) (congrArg Prod.snd hpair)
    refine ⟨⟨⟨e, hgroup, hcount⟩, ?_⟩, e, hgroup, hcount, hpoints, ?_⟩
    · rintro n ⟨x, hx, hn⟩
      obtain ⟨m, hle, hm, -⟩ := hmost x hx
      cases hn.symm.trans hm
      exact hle
    · rintro ⟨x, hx, hn, hteam⟩
      obtain ⟨m, -, hm, hfirst⟩ := hmost x hx
      cases hn.symm.trans hm
      exact hfirst rfl hteam
  · rw [reconcile_perm hp hn, hitems]

/-- Two entries of one player and rule of which one has its count in the notes only, and an entry by
rule. -/
def twoCounts : List StoredEntry :=
  [{ playerId := 2, ruleId := 1, pointType := .club, points := 9, notes := some "3 instances" },
   { playerId := 2, ruleId := 1, pointType := .team, points := 4, count := some 2 },
   { playerId := 1, ruleId := 1, pointType := .team, points := 5, isManual := false }]

theorem reconcile_takes_largest_of_two :
    (∀ e ∈ twoCounts, e.isManual = true → Readable e) ∧
      ((twoCounts.filter StoredEntry.isManual).map slot).Nodup ∧
      reconcile twoCounts.reverse =
        .ok [{ ruleId := 1, playerId := 2, count := 3, points := 9 }] := by
  have hread : ∀ e ∈ twoCounts, e.isManual = true → Readable e := by decide +kernel
  have hn : ((twoCounts.filter StoredEntry.isManual).map slot).Nodup := by decide +kernel
  obtain ⟨items, hitems, -, -, -, hperm⟩ := reconcile_takes_largest hread
  have hsorted : (twoCounts.filter StoredEntry.isManual).mergeSort before =
      (twoCounts.filter StoredEntry.isManual).reverse :=
    sortsBy_before.mergeSort_eq (List.reverse_perm _).symm (by decide +kernel)
  have hcomputed : reconcile twoCounts =
      .ok [{ ruleId := 1, playerId := 2, count := 3, points := 9 }] := by
    rw [reconcile, hsorted]
    rfl
  refine ⟨hread, hn, ?_⟩
  rw [hperm hn _ (List.reverse_perm twoCounts), ← hitems, hcomputed]

end Editing

end ClubPoints
