import ClubPoints.Proofs.Rows
import Mathlib.Data.List.Sort

/-!
# Tables that are numbered in turn

A table of which no row is ever removed has the numbers one, two, three and so on (`Counted`).
Whether rows can be stored there depends on the rows alone, as long as numbers are left that fit a
word (`Counted.exists_insert_iff`, `Counted.exists_insertAll_iff`).
-/

namespace ClubPoints

def upTo (n : Nat) : List Int := (List.range n).map fun i : Nat => (i : Int) + 1

theorem upTo_succ (n : Nat) : upTo (n + 1) = upTo n ++ [(n : Int) + 1] := by
  simp [upTo, List.range_succ]

theorem le_of_mem_upTo {n : Nat} {k : Int} (h : k ∈ upTo n) : 1 ≤ k ∧ k ≤ n := by
  obtain ⟨i, hi, rfl⟩ := List.mem_map.mp h
  have hi := List.mem_range.mp hi
  omega

theorem increasing_upTo (n : Nat) : (upTo n).Pairwise (· < ·) :=
  List.pairwise_map.mpr (List.pairwise_lt_range.imp fun h => by omega)

theorem nodup_upTo (n : Nat) : (upTo n).Nodup := (increasing_upTo n).imp ne_of_lt

/-- A number of the first ones goes back to where it was. -/
theorem orderedInsert_upTo {n : Nat} {k : Int} (h : k ∈ upTo n) :
    ((upTo n).filter fun x => x != k).orderedInsert (· ≤ ·) k = upTo n := by
  rw [← (nodup_upTo n).erase_eq_filter]
  exact List.orderedInsert_erase k _ h ((increasing_upTo n).imp le_of_lt)

theorem fitsWord_of_le {m n : Int} (hm : 0 ≤ m) (hle : m ≤ n) (h : fitsWord n = true) :
    fitsWord m = true := by
  rw [fitsWord_iff] at h ⊢
  unfold wordLimit at h ⊢
  omega

namespace Store

variable {s t : Store} {R : Type} [Table R]

/-! ## The next number -/

theorem foldl_max_upTo (n : Nat) : (upTo n).foldl max 0 = n := by
  induction n with
  | zero => rfl
  | succ n ih =>
    rw [upTo_succ, List.foldl_append, ih]
    simp only [List.foldl_cons, List.foldl_nil]
    omega

theorem foldl_free_upTo (n : Nat) :
    (upTo n).foldl (fun m k => if k = m then m + 1 else m) 1 = (n : Int) + 1 := by
  induction n with
  | zero => rfl
  | succ n ih =>
    rw [upTo_succ, List.foldl_append, ih]
    simp

theorem nextId_of_ids {n : Nat} (h : (Table.rows s : List R).map Table.id = upTo n) :
    s.nextId R = (n : Int) + 1 := by
  have hfree : s.freeId R = (n : Int) + 1 := by
    rw [← foldl_free_upTo n, ← h, List.foldl_map]
    rfl
  unfold nextId
  cases hrows : (Table.rows s : List R) with
  | nil =>
    rw [hrows] at h
    have hlength := congrArg List.length h
    simp only [List.map_nil, List.length_nil, upTo, List.length_map, List.length_range] at hlength
    simp [← hlength]
  | cons r rest =>
    rw [hrows] at h
    have hpos : 1 ≤ Table.id r := (le_of_mem_upTo (n := n) (by simp [← h])).1
    have hmax : rest.foldl (fun n r => max n (Table.id r)) (Table.id r) = (n : Int) := by
      rw [← foldl_max_upTo n, ← h, List.map_cons, List.foldl_cons, List.foldl_map,
        Int.max_eq_right (by omega)]
    dsimp only
    rw [hfree, hmax, ite_self]

/-! ## Counted tables -/

/-- A table where nothing that is checked of a row by itself depends on its number. -/
class CountedTable (R : Type) [Table R] : Prop extends LawfulTable R where
  words_setId (r : R) (n : Int) : Table.words (Table.setId r n) = Table.words r
  fault?_setId (r : R) (n : Int) : Table.fault? (Table.setId r n) = Table.fault? r
  clashes (a b : R) : Table.clashes a b = false

instance : CountedTable RuleRecord := ⟨fun _ _ => rfl, fun _ _ => rfl, fun _ _ => rfl⟩

instance : CountedTable ConditionRecord := ⟨fun _ _ => rfl, fun _ _ => rfl, fun _ _ => rfl⟩

structure Counted (R : Type) [Table R] (s : Store) : Prop where
  ids : (Table.rows s : List R).map Table.id = upTo (Table.rows s : List R).length
  fits : fitsWord (Table.rows s : List R).length = true

structure Storable (s : Store) (r : R) : Prop where
  words : ∀ n ∈ Table.words r, fitsWord n = true
  sound : Table.fault? r = none
  refers : ∀ ref ∈ Table.references r, s.holds ref = true

theorem map_id_placed [LawfulTable R] (others : List R) (r : R) :
    (placed others r).map Table.id =
      (others.map Table.id).orderedInsert (· ≤ ·) (Table.id r) := by
  have hbefore : (fun x : R => decide (Table.id x < Table.id r)) =
      (fun k : Int => decide ¬Table.id r ≤ k) ∘ Table.id := by
    funext x
    simp
  simp only [placed, List.span_eq_takeWhile_dropWhile, List.map_append, List.map_cons,
    LawfulTable.id_kept, List.orderedInsert_eq_take_drop, List.takeWhile_map, List.dropWhile_map,
    hbefore]

theorem placed_last {others : List R} {r : R} (h : ∀ x ∈ others, Table.id x < Table.id r) :
    placed others r = others ++ [Table.kept r] := by
  have hall : (others.takeWhile fun x => decide (Table.id x < Table.id r)) = others := by
    induction others with
    | nil => rfl
    | cons x rest ih =>
      obtain ⟨hx, hrest⟩ := List.forall_mem_cons.mp h
      rw [List.takeWhile_cons, decide_eq_true hx, if_pos rfl, ih hrest]
  have hnone : (others.dropWhile fun x => decide (Table.id x < Table.id r)) = [] := by
    have hsplit := List.takeWhile_append_dropWhile (l := others)
      (p := fun x => decide (Table.id x < Table.id r))
    rw [hall] at hsplit
    exact List.append_right_eq_self.mp hsplit
  simp only [placed, List.span_eq_takeWhile_dropWhile, hall, hnone]

theorem Inserted.length [LawfulTable R] {r : R} (hi : Inserted s r t) :
    ((Table.rows t : List R).length : Int) = (Table.rows s : List R).length + 1 := by
  rw [hi.store, LawfulTable.rows_setRows, (perm_placed _ r).length_eq, List.length_cons,
    Int.natCast_succ]

theorem Counted.nextId_eq (h : Counted R s) :
    s.nextId R = (Table.rows s : List R).length + 1 := nextId_of_ids h.ids

theorem Counted.congr (h : Counted R s) (hrows : (Table.rows t : List R) = Table.rows s) :
    Counted R t :=
  ⟨by rw [hrows]; exact h.ids, by rw [hrows]; exact h.fits⟩

theorem Counted.id_lt_next (h : Counted R s) :
    ∀ x ∈ (Table.rows s : List R), Table.id x < s.nextId R := by
  intro x hx
  have hmem : Table.id x ∈ upTo (Table.rows s : List R).length := by
    rw [← h.ids]
    exact List.mem_map_of_mem hx
  have hle := (le_of_mem_upTo hmem).2
  rw [h.nextId_eq]
  omega

theorem Counted.fits_id (h : Counted R s) : ∀ x ∈ (Table.rows s : List R),
    fitsWord (Table.id x) = true := by
  intro x hx
  have hmem : Table.id x ∈ upTo (Table.rows s : List R).length := by
    rw [← h.ids]
    exact List.mem_map_of_mem hx
  obtain ⟨hpos, hle⟩ := le_of_mem_upTo hmem
  exact fitsWord_of_le (by omega) hle h.fits

/-- Rows are listed in the order in which they were stored. -/
theorem Counted.increasing (h : Counted R s) :
    (Table.rows s : List R).Pairwise fun a b => Table.id a < Table.id b := by
  have hids := increasing_upTo (Table.rows s : List R).length
  rw [← h.ids] at hids
  exact List.pairwise_map.mp hids

theorem Counted.get_eq [LawfulTable R] (h : Counted R s) {id : Int} {r : R} (what : Missing)
    (hr : s.find? id = some r) : s.get R id what = .ok r := by
  obtain ⟨hmem, hid⟩ := find?_eq_some hr
  exact get_eq_ok.mpr ⟨hid ▸ h.fits_id r hmem, hr⟩

namespace Counted

/-! ## Numbers stay in turn -/

section
variable [LawfulTable R] (h : Counted R s)
include h

theorem inserted_rows {r : R} (hi : Inserted s (Table.setId r (s.nextId R)) t) :
    (Table.rows t : List R) = Table.rows s ++ [Table.kept (Table.setId r (s.nextId R))] := by
  have hlast := h.id_lt_next
  rw [← LawfulTable.id_setId r (s.nextId R)] at hlast
  rw [hi.store, LawfulTable.rows_setRows, placed_last hlast]

theorem inserted {r : R} (hi : Inserted s (Table.setId r (s.nextId R)) t) : Counted R t := by
  have hrows := h.inserted_rows hi
  constructor
  · rw [hrows, List.map_append, h.ids, List.map_cons, LawfulTable.id_kept, LawfulTable.id_setId,
      h.nextId_eq, List.length_append, List.length_singleton, upTo_succ]
    rfl
  · have hid := (fault?_eq_none.mp hi.sound).1 _ List.mem_cons_self
    rw [LawfulTable.id_setId, h.nextId_eq] at hid
    rw [hi.length]
    exact hid

theorem insertAll {rs numbered : List R} (hi : s.insertAll rs = .ok (t, numbered)) :
    Counted R t ∧ (Table.rows t : List R) = Table.rows s ++ numbered.map Table.kept := by
  induction rs generalizing s numbered with
  | nil =>
    cases hi
    exact ⟨h, (List.append_nil _).symm⟩
  | cons r rest ih =>
    simp only [Store.insertAll, bind_eq_ok, Prod.exists, pure_eq_ok, Prod.mk.injEq] at hi
    obtain ⟨u, r', hr, _, more, hrest, rfl, rfl⟩ := hi
    obtain ⟨rfl, hr⟩ := insert_eq_ok.mp hr
    obtain ⟨hcounted, hrows⟩ := ih (h.inserted hr) hrest
    refine ⟨hcounted, ?_⟩
    rw [hrows, h.inserted_rows hr, List.append_assoc]
    rfl

theorem replaced {r old : R} (hold : old ∈ (Table.rows s : List R)) (hid : Table.id old = Table.id r)
    (hrows : (Table.rows t : List R) =
      placed ((Table.rows s).filter fun x => Table.id x != Table.id r) r) : Counted R t := by
  have hmem : Table.id r ∈ upTo (Table.rows s : List R).length := by
    rw [← h.ids, ← hid]
    exact List.mem_map_of_mem hold
  have hids : (Table.rows t : List R).map Table.id = upTo (Table.rows s : List R).length := by
    have hothers : ((Table.rows s).filter fun x : R => Table.id x != Table.id r).map Table.id =
        (upTo (Table.rows s : List R).length).filter fun k => k != Table.id r := by
      rw [← h.ids, List.filter_map]
      rfl
    rw [hrows, map_id_placed, hothers, orderedInsert_upTo hmem]
  have hlength := congrArg List.length hids
  simp only [List.length_map, upTo, List.length_range] at hlength
  constructor
  · rw [hids, hlength]
  · rw [hlength]
    exact h.fits

theorem updated {r old : R} (hold : old ∈ (Table.rows s : List R)) (hid : Table.id old = Table.id r)
    (hu : s.update r = .ok t) : Counted R t := by
  obtain ⟨-, -, rfl⟩ := update_eq_ok.mp hu
  exact h.replaced hold hid (LawfulTable.rows_setRows ..)

end

/-! ## Storing new rows -/

variable [CountedTable R] (h : Counted R s)
include h

theorem inserted_iff {r : R} :
    Inserted s (Table.setId r (s.nextId R)) t ↔
      s.Storable r ∧ fitsWord ((Table.rows s : List R).length + 1) = true ∧
        t = Table.setRows s
          ((Table.rows s : List R) ++ [Table.kept (Table.setId r (s.nextId R))]) := by
  have hlast := h.id_lt_next
  rw [← LawfulTable.id_setId r (s.nextId R)] at hlast
  have hfault : fault? (Table.rows s) (Table.setId r (s.nextId R)) = none ↔
      fitsWord ((Table.rows s : List R).length + 1) = true ∧
        (∀ n ∈ Table.words r, fitsWord n = true) ∧ Table.fault? r = none := by
    rw [fault?_eq_none, List.forall_mem_cons, CountedTable.words_setId, CountedTable.fault?_setId]
    nth_rewrite 1 [LawfulTable.id_setId]
    rw [h.nextId_eq] at hlast ⊢
    constructor
    · exact fun ⟨hwords, hsound, _⟩ => ⟨hwords.1, hwords.2, hsound⟩
    · exact fun ⟨hid, hwords, hsound⟩ => ⟨⟨hid, hwords⟩, hsound,
        fun x hx => ne_of_lt (hlast x hx), fun x _ => CountedTable.clashes ..⟩
  rw [← placed_last hlast]
  constructor
  · rintro ⟨hsound, hrefers, rfl⟩
    obtain ⟨hid, hwords, hown⟩ := hfault.mp hsound
    rw [LawfulTable.references_setId] at hrefers
    exact ⟨⟨hwords, hown, hrefers⟩, hid, rfl⟩
  · rintro ⟨⟨hwords, hown, hrefers⟩, hid, rfl⟩
    refine ⟨hfault.mpr ⟨hid, hwords, hown⟩, ?_, rfl⟩
    rw [LawfulTable.references_setId]
    exact hrefers

theorem exists_insert_iff {r : R} :
    (∃ x, s.insert r = .ok x) ↔
      s.Storable r ∧ fitsWord ((Table.rows s : List R).length + 1) = true := by
  simp only [Prod.exists, insert_eq_ok]
  constructor
  · rintro ⟨t, _, rfl, hi⟩
    obtain ⟨hr, hfits, -⟩ := h.inserted_iff.mp hi
    exact ⟨hr, hfits⟩
  · rintro ⟨hr, hfits⟩
    exact ⟨_, _, rfl, h.inserted_iff.mpr ⟨hr, hfits, rfl⟩⟩

/-- New rows can be stored if each of them can and there are numbers left for all. -/
theorem exists_insertAll_iff {rs : List R} :
    (∃ x, s.insertAll rs = .ok x) ↔
      (∀ r ∈ rs, s.Storable r) ∧
        fitsWord ((Table.rows s : List R).length + (rs.length : Int)) = true := by
  induction rs generalizing s with
  | nil => simp [Store.insertAll, h.fits]
  | cons r rest ih =>
    have hlength : (Table.rows s : List R).length + ((r :: rest).length : Int) =
        (Table.rows s : List R).length + 1 + (rest.length : Int) := by
      push_cast [List.length_cons]
      omega
    simp only [Store.insertAll, bind_eq_ok, Prod.exists, pure_eq_ok, hlength, List.forall_mem_cons]
    -- what the later rows refer to is not changed by storing the first
    have hlater {u : Store} (hu : Inserted s (Table.setId r (s.nextId R)) u) :
        (∃ x, u.insertAll rest = .ok x) ↔ (∀ x ∈ rest, s.Storable x) ∧
          fitsWord ((Table.rows s : List R).length + 1 + (rest.length : Int)) = true := by
      have hsame (x : R) : u.Storable x ↔ s.Storable x := by
        have hholds : ∀ ref ∈ Table.references x, u.holds ref = s.holds ref := by
          rw [hu.store]
          exact LawfulTable.holds_setRows s _ x
        constructor
        · exact fun hx => ⟨hx.words, hx.sound, fun ref href => hholds ref href ▸ hx.refers ref href⟩
        · exact fun hx => ⟨hx.words, hx.sound,
            fun ref href => (hholds ref href).trans (hx.refers ref href)⟩
      rw [ih (h.inserted hu), hu.length]
      simp only [hsame]
    constructor
    · rintro ⟨_, _, u, r', hr, t, more, hrest, -⟩
      obtain ⟨rfl, hu⟩ := insert_eq_ok.mp hr
      obtain ⟨hstorable, hfits⟩ := (hlater hu).mp ⟨_, hrest⟩
      exact ⟨⟨(h.inserted_iff.mp hu).1, hstorable⟩, hfits⟩
    · rintro ⟨⟨hr, hstorable⟩, hfits⟩
      have hfirst : fitsWord ((Table.rows s : List R).length + 1) = true :=
        fitsWord_of_le (by omega) (by omega) hfits
      obtain ⟨⟨u, r'⟩, hinsert⟩ := h.exists_insert_iff.mpr ⟨hr, hfirst⟩
      obtain ⟨rfl, hu⟩ := insert_eq_ok.mp hinsert
      obtain ⟨⟨t, more⟩, hrest⟩ := (hlater hu).mpr ⟨hstorable, hfits⟩
      exact ⟨_, _, u, _, hinsert, t, more, hrest, rfl⟩

end Counted

end Store

end ClubPoints
