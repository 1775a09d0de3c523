import Mathlib.Data.Prod.Lex
import Mathlib.Data.String.Basic
import Mathlib.Data.List.Pairwise
import Mathlib.Data.List.Nodup
import Mathlib.Order.Compare

/-!
# Sorting by a key

A comparison of several columns in turn is the order of one key, the columns as a tuple
(`SortsBy.lex`). If no key occurs twice, the order is strict and there is no other.
-/

namespace ClubPoints

variable {α κ μ : Type} [LinearOrder κ] [LinearOrder μ]

def SortsBy (le : α → α → Bool) (key : α → κ) : Prop := ∀ a b, le a b = true ↔ key a ≤ key b

/-! ## Comparisons -/

theorem isLE_compareOn (f : α → κ) : SortsBy (fun a b => (compareOn f a b).isLE) f := by
  intro a b
  change (compare (f a) (f b)).isLE = true ↔ _
  rw [Ordering.isLE_iff_ne_gt, compare_gt_iff_gt, not_lt]

theorem SortsBy.lex {f : α → κ} {c : α → α → Ordering} {g : α → μ}
    (h : SortsBy (fun a b => (c a b).isLE) g) :
    SortsBy (fun a b => (compareLex (compareOn f) c a b).isLE) fun a => toLex (f a, g a) := by
  intro a b
  change ((compare (f a) (f b)).then (c a b)).isLE = true ↔ _
  rw [Prod.Lex.toLex_le_toLex, Ordering.isLE_then_iff_or, compare_lt_iff_lt, compare_eq_iff_eq,
    h a b]

/-! ## Sorted lists -/

/-- There is only one list of the same items in the order of a key that tells them apart. -/
theorem eq_of_perm_of_injOn {key : α → κ} {xs ys : List α} (hp : xs.Perm ys)
    (hinj : ∀ a ∈ ys, ∀ b ∈ ys, key a = key b → a = b)
    (hx : xs.Pairwise fun a b => key a ≤ key b) (hy : ys.Pairwise fun a b => key a ≤ key b) :
    xs = ys := by
  refine List.Perm.eq_of_pairwise (fun a b ha hb hab hba => ?_) hx hy hp
  exact hinj a (hp.subset ha) b hb (le_antisymm hab hba)

theorem eq_of_perm {key : α → κ} {xs ys : List α} (hp : xs.Perm ys) (hn : (ys.map key).Nodup)
    (hx : xs.Pairwise fun a b => key a ≤ key b) (hy : ys.Pairwise fun a b => key a ≤ key b) :
    xs = ys :=
  eq_of_perm_of_injOn hp (fun _ ha _ hb => List.inj_on_of_nodup_map hn ha hb) hx hy

namespace SortsBy

variable {le : α → α → Bool} {key : α → κ} (h : SortsBy le key)
include h

theorem pairwise_mergeSort (xs : List α) :
    (xs.mergeSort le).Pairwise fun a b => key a ≤ key b := by
  have hsorted : (xs.mergeSort le).Pairwise fun a b => le a b = true :=
    List.pairwise_mergeSort
      (fun a b c hab hbc => (h a c).mpr (((h a b).mp hab).trans ((h b c).mp hbc)))
      (fun a b => by
        rw [Bool.or_eq_true, h, h]
        exact le_total _ _) xs
  exact hsorted.imp fun hab => (h _ _).mp hab

theorem pairwise_lt_mergeSort {xs : List α} (hn : (xs.map key).Nodup) :
    (xs.mergeSort le).Pairwise fun a b => key a < key b := by
  have hn' : (xs.mergeSort le).Pairwise fun a b => key a ≠ key b :=
    List.pairwise_map.mp (((List.mergeSort_perm xs le).map key).nodup_iff.mpr hn)
  exact ((h.pairwise_mergeSort xs).and hn').imp fun hab => lt_of_le_of_ne hab.1 hab.2

theorem mergeSort_eq {xs ys : List α} (hp : xs.Perm ys)
    (hs : ys.Pairwise fun a b => key a < key b) : xs.mergeSort le = ys := by
  have hn : (xs.map key).Nodup :=
    (hp.map key).nodup_iff.mpr (List.pairwise_map.mpr (hs.imp ne_of_lt))
  exact List.Perm.eq_of_pairwise (fun a b _ _ hab hba => absurd (hab.trans hba) (lt_irrefl _))
    (h.pairwise_lt_mergeSort hn) hs ((List.mergeSort_perm xs le).trans hp)

theorem mergeSort_congr {xs ys : List α} (hp : xs.Perm ys) (hn : (ys.map key).Nodup) :
    xs.mergeSort le = ys.mergeSort le :=
  h.mergeSort_eq (hp.trans (List.mergeSort_perm ys le).symm) (h.pairwise_lt_mergeSort hn)

/-- The first item is put before all that are not less, so equal items stay in their order. -/
theorem exists_mergeSort_cons (a : α) (xs : List α) :
    ∃ front rest, (a :: xs).mergeSort le = front ++ a :: rest ∧ xs.mergeSort le = front ++ rest ∧
      (∀ b ∈ front, ¬ le a b = true) ∧ ∀ b ∈ rest, le a b = true := by
  obtain ⟨front, rest, hcons, hxs, hfront⟩ := List.mergeSort_cons
    (fun a b c hab hbc => (h a c).mpr (((h a b).mp hab).trans ((h b c).mp hbc)))
    (fun a b => by
      rw [Bool.or_eq_true, h, h]
      exact le_total _ _) a xs
  refine ⟨front, rest, hcons, hxs, ?_, ?_⟩
  · intro b hb
    simpa using hfront b hb
  · intro b hb
    have hsorted := h.pairwise_mergeSort (a :: xs)
    rw [hcons] at hsorted
    exact (h a b).mpr (List.rel_of_pairwise_cons (List.pairwise_append.mp hsorted).2.1 hb)

theorem mergeSort_cons (a : α) (xs : List α) :
    (a :: xs).mergeSort le =
      (xs.mergeSort le).filter (fun b => !le a b) ++ a :: (xs.mergeSort le).filter (le a) := by
  obtain ⟨front, rest, hcons, hxs, hfront, hrest⟩ := h.exists_mergeSort_cons a xs
  have hless : (front ++ rest).filter (fun b => !le a b) = front := by
    rw [List.filter_append, List.filter_eq_self.mpr (by simpa using hfront),
      List.filter_eq_nil_iff.mpr (by simpa using hrest), List.append_nil]
  have hgreater : (front ++ rest).filter (le a) = rest := by
    rw [List.filter_append, List.filter_eq_nil_iff.mpr hfront, List.filter_eq_self.mpr hrest,
      List.nil_append]
  rw [hcons, hxs, hless, hgreater]

/-- Items come in the same order whether the others are left out before the sort or after it. -/
theorem filter_mergeSort (keep : α → Bool) (xs : List α) :
    (xs.mergeSort le).filter keep = (xs.filter keep).mergeSort le := by
  induction xs with
  | nil => simp
  | cons a rest ih =>
    by_cases ha : keep a = true
    · have hcomm (p : α → Bool) : ((rest.mergeSort le).filter p).filter keep =
          ((rest.filter keep).mergeSort le).filter p := by
        rw [← ih, List.filter_comm]
      rw [h.mergeSort_cons, List.filter_append, List.filter_cons_of_pos ha, hcomm, hcomm,
        List.filter_cons_of_pos ha, h.mergeSort_cons]
    · obtain ⟨front, after, hcons, hrest, -, -⟩ := h.exists_mergeSort_cons a rest
      rw [hcons, List.filter_append, List.filter_cons_of_neg ha, List.filter_cons_of_neg ha, ← ih,
        hrest, List.filter_append]

end SortsBy

end ClubPoints
