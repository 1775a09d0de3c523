import ClubPoints.Proofs.Accepted
import ClubPoints.Proofs.Counting

/-!
# Numbers that are left

Statistics, entries and variables are removed again, so their numbers have gaps, unlike those of a
counted table. Still the next number is one that no row has (`Ascending.nextId_fresh`), and whether
rows can be stored depends on how many there are (`Ascending.exists_insertAll`).
-/

namespace ClubPoints

class PlainTable (R : Type) [Table R] : Prop extends LawfulTable R where
  words_setId (r : R) (n : Int) : Table.words (Table.setId r n) = Table.words r
  fault?_setId (r : R) (n : Int) : Table.fault? (Table.setId r n) = Table.fault? r
  clashes_setId (a b : R) (n : Int) : Table.clashes a (Table.setId b n) = Table.clashes a b
  clashes_kept (a b : R) (n : Int) :
    Table.clashes (Table.kept (Table.setId a n)) b = Table.clashes a b

instance : PlainTable StatRecord :=
  ⟨fun _ _ => rfl, fun _ _ => rfl, fun _ _ _ => rfl, fun _ _ _ => rfl⟩

instance : PlainTable EntryRecord :=
  ⟨fun _ _ => rfl, fun _ _ => rfl, fun _ _ _ => rfl, fun _ _ _ => rfl⟩

instance : PlainTable VariableRecord :=
  ⟨fun _ _ => rfl, fun _ _ => rfl, fun _ _ _ => rfl, fun _ _ _ => rfl⟩

namespace Store

variable {R : Type} [Table R] {s t : Store}

/-! ## The first number that is free -/

theorem foldl_free_of_lt {rows : List R} {n : Int} (h : ∀ r ∈ rows, n < Table.id r) :
    rows.foldl (fun n r => if Table.id r = n then n + 1 else n) n = n := by
  induction rows with
  | nil => rfl
  | cons r rest ih =>
    obtain ⟨hr, hrest⟩ := List.forall_mem_cons.mp h
    rw [List.foldl_cons, if_neg hr.ne', ih hrest]

/-- Numbers in order are counted through up to the first gap. -/
theorem foldl_free {rows : List R} (ho : rows.Pairwise fun x y => Table.id x < Table.id y) {n : Int}
    (hn : ∀ r ∈ rows, n ≤ Table.id r) :
    rows.foldl (fun n r => if Table.id r = n then n + 1 else n) n ≤ n + rows.length ∧
      ∀ r ∈ rows, Table.id r ≠ rows.foldl (fun n r => if Table.id r = n then n + 1 else n) n := by
  induction rows generalizing n with
  | nil => simp
  | cons r rest ih =>
    obtain ⟨hr, ho⟩ := List.pairwise_cons.mp ho
    rw [List.foldl_cons, List.length_cons]
    by_cases hrn : Table.id r = n
    · rw [if_pos hrn]
      have hrest : ∀ x ∈ rest, n + 1 ≤ Table.id x := fun x hx => hrn ▸ hr x hx
      obtain ⟨hle, hfree⟩ := ih ho hrest
      have hpast : n + 1 ≤ rest.foldl (fun n r => if Table.id r = n then n + 1 else n) (n + 1) :=
        le_foldl (fun m x => by split <;> omega) rest (n + 1)
      exact ⟨by push_cast; omega, List.forall_mem_cons.mpr ⟨by omega, hfree⟩⟩
    · have hlt : n < Table.id r := lt_of_le_of_ne (hn r List.mem_cons_self) (Ne.symm hrn)
      rw [if_neg hrn, foldl_free_of_lt fun x hx => hlt.trans (hr x hx)]
      refine ⟨by omega, List.forall_mem_cons.mpr ⟨hrn, fun x hx => ?_⟩⟩
      exact (hlt.trans (hr x hx)).ne'

theorem le_foldl_max {rows : List R} (n : Int) :
    ∀ r ∈ rows, Table.id r ≤ rows.foldl (fun n r => max n (Table.id r)) n := by
  induction rows generalizing n with
  | nil => simp
  | cons r rest ih =>
    refine List.forall_mem_cons.mpr ⟨?_, ih _⟩
    exact (le_max_right n _).trans (le_foldl (fun m x => le_max_left m (Table.id x)) rest _)

/-! ## Tables whose numbers grow -/

structure Ascending (R : Type) [Table R] (s : Store) : Prop where
  order : (Table.rows s : List R).Pairwise fun x y => Table.id x < Table.id y
  positive : ∀ r ∈ (Table.rows s : List R), 1 ≤ Table.id r

def HasRoom (R : Type) [Table R] (s : Store) (more : Nat) : Prop :=
  fitsWord ((Table.rows s : List R).length + (more : Int)) = true

theorem HasRoom.of_le {more more' : Nat} (h : HasRoom R s more)
    (hle : (Table.rows t : List R).length + more' ≤ (Table.rows s : List R).length + more) :
    HasRoom R t more' :=
  fitsWord_of_le (by omega) (by omega) h

theorem Storable.setRows [LawfulTable R] {r : R} (h : s.Storable r) (l : List R) :
    (Table.setRows s l).Storable r where
  words := h.words
  sound := h.sound
  refers ref href := (LawfulTable.holds_setRows s l r ref href).trans (h.refers ref href)

theorem Storable.mono {r : R} (h : s.Storable r)
    (hheld : ∀ ref, s.holds ref = true → t.holds ref = true) : t.Storable r where
  words := h.words
  sound := h.sound
  refers ref href := hheld ref (h.refers ref href)

structure IsSound (r : R) : Prop where
  words : ∀ n ∈ Table.words r, fitsWord n = true
  sound : Table.fault? r = none

/-- Rows that could be stored under numbers are sound whatever their numbers. -/
theorem InsertedAll.own [PlainTable R] {rs numbered : List R} (hi : InsertedAll s rs numbered t) :
    ∀ r ∈ rs, IsSound r := by
  intro r hr
  obtain ⟨_, hmem, n, rfl⟩ := exists_of_forall₂ hi.numbers.flip r hr
  obtain ⟨hsound, hwords⟩ := hi.sound _ hmem
  rw [PlainTable.words_setId] at hwords
  rw [PlainTable.fault?_setId] at hsound
  exact ⟨hwords, hsound⟩

namespace Ascending

theorem congr (h : Ascending R s) (hrows : (Table.rows t : List R) = Table.rows s) :
    Ascending R t :=
  ⟨by rw [hrows]; exact h.order, by rw [hrows]; exact h.positive⟩

theorem of_sublist (h : Ascending R s)
    (hrows : (Table.rows t : List R).Sublist (Table.rows s : List R)) : Ascending R t :=
  ⟨h.order.sublist hrows, fun r hr => h.positive r (hrows.subset hr)⟩

theorem nextId_fresh (h : Ascending R s) :
    ∀ r ∈ (Table.rows s : List R), Table.id r ≠ s.nextId R := by
  obtain ⟨-, hfree⟩ := foldl_free h.order h.positive
  unfold nextId
  cases hrows : (Table.rows s : List R) with
  | nil => nofun
  | cons r rest =>
    dsimp only
    by_cases hnext : fitsWord
        (rest.foldl (fun n r => max n (Table.id r)) (Table.id r) + 1) = true
    · rw [if_pos hnext]
      refine List.forall_mem_cons.mpr ⟨?_, fun x hx => ?_⟩
      · have hhead := le_foldl (fun m (x : R) => le_max_left m (Table.id x)) rest (Table.id r)
        omega
      · have hx := le_foldl_max (Table.id r) x hx
        omega
    · rw [if_neg hnext, ← hrows]
      exact hfree

theorem nextId_fits (h : Ascending R s) (hroom : HasRoom R s 1) :
    fitsWord (s.nextId R) = true := by
  obtain ⟨hle, -⟩ := foldl_free h.order h.positive
  have hfits : fitsWord (s.freeId R) = true := by
    refine fitsWord_of_le ((Int.zero_le_ofNat 1).trans (freeId_pos s)) ?_ hroom
    exact hle.trans (le_of_eq (Int.add_comm _ _))
  unfold nextId
  cases (Table.rows s : List R) with
  | nil => rfl
  | cons r rest =>
    dsimp only
    split
    · assumption
    · exact hfits

theorem placed [LawfulTable R] {others : List R} {r : R}
    (ho : others.Pairwise fun x y => Table.id x < Table.id y)
    (hpositive : ∀ x ∈ others, 1 ≤ Table.id x) (hfresh : ∀ x ∈ others, Table.id x ≠ Table.id r)
    (hr : 1 ≤ Table.id r) (hrows : (Table.rows t : List R) = Store.placed others r) :
    Ascending R t := by
  have hn := nodup_placed (List.pairwise_map.mpr (ho.imp ne_of_lt)) hfresh
  have hsorted : ((Store.placed others r).map Table.id).Pairwise (· ≤ ·) := by
    rw [map_id_placed]
    exact List.Pairwise.orderedInsert _ _ (List.pairwise_map.mpr (ho.imp le_of_lt))
  constructor
  · rw [hrows]
    exact List.pairwise_map.mp ((hsorted.and hn).imp fun hxy => lt_of_le_of_ne hxy.1 hxy.2)
  · rw [hrows]
    intro x hx
    rcases mem_placed.mp hx with rfl | hx
    · rw [LawfulTable.id_kept]
      exact hr
    · exact hpositive x hx

theorem inserted [LawfulTable R] (h : Ascending R s) {r : R}
    (hi : Inserted s (Table.setId r (s.nextId R)) t) : Ascending R t := by
  obtain ⟨-, -, hfresh, -⟩ := fault?_eq_none.mp hi.sound
  refine placed h.order h.positive hfresh ?_ (hi.store ▸ LawfulTable.rows_setRows ..)
  rw [LawfulTable.id_setId]
  exact nextId_pos h.positive

theorem updated [LawfulTable R] (h : Ascending R s) {old r : R}
    (hold : old ∈ (Table.rows s : List R)) (hid : Table.id r = Table.id old)
    (hu : s.update r = .ok t) : Ascending R t := by
  obtain ⟨hsound, -, rfl⟩ := update_eq_ok.mp hu
  obtain ⟨-, -, hfresh, -⟩ := fault?_eq_none.mp hsound
  exact placed (h.order.sublist List.filter_sublist)
    (fun x hx => h.positive x (List.mem_filter.mp hx).1) hfresh (hid ▸ h.positive old hold)
    (LawfulTable.rows_setRows ..)

theorem insertAll [LawfulTable R] (h : Ascending R s) {rs numbered : List R}
    (hi : s.insertAll rs = .ok (t, numbered)) : Ascending R t := by
  induction rs generalizing s numbered with
  | nil =>
    cases hi
    exact h
  | cons r rest ih =>
    simp only [Store.insertAll, bind_eq_ok, Prod.exists, pure_eq_ok, Prod.mk.injEq] at hi
    obtain ⟨u, r', hr, _, more, hrest, rfl, -⟩ := hi
    obtain ⟨rfl, hr⟩ := insert_eq_ok.mp hr
    exact ih (h.inserted hr) hrest

/-! ## Storing rows -/

section
variable [PlainTable R] (h : Ascending R s)
include h

theorem inserted_next (hfits : fitsWord (s.nextId R) = true) {r : R} (hr : s.Storable r)
    (hold : ∀ x ∈ (Table.rows s : List R), Table.clashes x r = false) :
    Inserted s (Table.setId r (s.nextId R))
      (Table.setRows s (Store.placed (Table.rows s) (Table.setId r (s.nextId R)))) := by
  refine ⟨fault?_eq_none.mpr ⟨?_, ?_, ?_, ?_⟩, ?_, rfl⟩
  · rw [LawfulTable.id_setId, PlainTable.words_setId]
    exact List.forall_mem_cons.mpr ⟨hfits, hr.words⟩
  · rw [PlainTable.fault?_setId]
    exact hr.sound
  · rw [LawfulTable.id_setId]
    exact h.nextId_fresh
  · exact fun x hx => (PlainTable.clashes_setId ..).trans (hold x hx)
  · rw [LawfulTable.references_setId]
    exact hr.refers

theorem exists_insertAll {rs : List R} (hroom : HasRoom R s rs.length)
    (hstorable : ∀ r ∈ rs, s.Storable r)
    (hold : ∀ r ∈ rs, ∀ x ∈ (Table.rows s : List R), Table.clashes x r = false)
    (hnew : rs.Pairwise fun x y => Table.clashes x y = false) :
    ∃ t numbered, s.insertAll rs = .ok (t, numbered) := by
  induction rs generalizing s with
  | nil => exact ⟨s, [], rfl⟩
  | cons r rest ih =>
    obtain ⟨hr, hstorable⟩ := List.forall_mem_cons.mp hstorable
    obtain ⟨hrold, hold⟩ := List.forall_mem_cons.mp hold
    obtain ⟨hrnew, hnew⟩ := List.pairwise_cons.mp hnew
    have hfits := h.nextId_fits (hroom.of_le (by rw [List.length_cons]; omega))
    have hi := h.inserted_next hfits hr hrold
    generalize hu : Table.setRows s (Store.placed (Table.rows s) (Table.setId r (s.nextId R))) = u
      at hi
    have hrows : (Table.rows u : List R) =
        Store.placed (Table.rows s) (Table.setId r (s.nextId R)) := by
      rw [hi.store, LawfulTable.rows_setRows]
    have hlength : HasRoom R u rest.length := by
      refine hroom.of_le (le_of_eq ?_)
      rw [hrows, (perm_placed _ _).length_eq, List.length_cons, List.length_cons]
      omega
    -- the first row takes one number and clashes with none of the rest
    obtain ⟨t, more, ht⟩ := ih (h.inserted hi) hlength
      (fun x hx => hu ▸ (hstorable x hx).setRows _)
      (fun x hx y hy => by
        rw [hrows] at hy
        rcases mem_placed.mp hy with rfl | hy
        · exact (PlainTable.clashes_kept ..).trans (hrnew x hx)
        · exact hold x hx y hy)
      hnew
    refine ⟨t, Table.setId r (s.nextId R) :: more, ?_⟩
    rw [Store.insertAll, insert_eq_ok.mpr ⟨rfl, hi⟩]
    exact bind_eq_ok.mpr ⟨_, rfl, bind_eq_ok.mpr ⟨_, ht, rfl⟩⟩

end

end Ascending

/-! ## Scores -/

structure ScoresInOrder (s : Store) : Prop where
  stats : Ascending StatRecord s
  entries : Ascending EntryRecord s

namespace ScoresInOrder

theorem empty : ScoresInOrder {} :=
  ⟨⟨.nil, fun _ h => absurd h List.not_mem_nil⟩, ⟨.nil, fun _ h => absurd h List.not_mem_nil⟩⟩

theorem cleared (h : s.ScoresInOrder) {game : MatchRecord} {form : Form.FactsForm}
    (hc : s.clearedMatch game form = .ok t) : t.ScoresInOrder := by
  obtain ⟨-, -, rfl⟩ := clearedMatch_eq_ok.mp hc
  exact ⟨h.stats.of_sublist List.filter_sublist, h.entries.of_sublist List.filter_sublist⟩

theorem statsStored (h : s.ScoresInOrder) {rs numbered : List StatRecord}
    (hi : s.insertAll rs = .ok (t, numbered)) : t.ScoresInOrder := by
  refine ⟨h.stats.insertAll hi, h.entries.congr ?_⟩
  rw [(insertAll_eq_ok hi).store]
  rfl

theorem entriesStored (h : s.ScoresInOrder) {rs numbered : List EntryRecord}
    (hi : s.insertAll rs = .ok (t, numbered)) : t.ScoresInOrder := by
  refine ⟨h.stats.congr ?_, h.entries.insertAll hi⟩
  rw [(insertAll_eq_ok hi).store]
  rfl

theorem turns {policy : Policy} {a : Action} (hn : s.Numbered) (h : s.ScoresInOrder)
    (ht : a.Turns policy s t) : t.ScoresInOrder := by
  rcases Grows.or_completed hn ht with hg | ⟨_, _, -, ⟨c⟩⟩
  · exact ⟨h.stats.congr hg.stats, h.entries.congr hg.entries⟩
  · exact ((h.cleared c.cleared_eq).statsStored c.stats_ok).entriesStored c.entries_ok

end ScoresInOrder

theorem Reachable.scoresInOrder (h : s.Reachable) : s.ScoresInOrder :=
  h.induction .empty fun _ _ _ _ hr hs _ ht => hs.turns hr.numbered ht

end Store

end ClubPoints
