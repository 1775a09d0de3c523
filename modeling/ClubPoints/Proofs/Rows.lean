import ClubPoints.Proofs.Outcomes
import ClubPoints.Store.Tables
import Mathlib.Data.List.Nodup
import Mathlib.Data.List.Perm.Basic
import Mathlib.Data.List.TakeDrop

/-!
# Rows in the store

What it means that a store has accepted rows. Storing, changing and removing rows each come down to
one equation for the next store: `insert_eq_ok`, `insertAll_eq_ok` and `update_eq_ok`.
-/

namespace ClubPoints

/-- A table whose rows are kept as they are set, and none of whose rows refers to the table itself. -/
class LawfulTable (R : Type) [Table R] : Prop where
  rows_setRows (s : Store) (l : List R) : Table.rows (Table.setRows s l) = l
  setRows_setRows (s : Store) (l l' : List R) :
    Table.setRows (Table.setRows s l) l' = Table.setRows s l'
  setRows_rows (s : Store) : Table.setRows s (Table.rows s : List R) = s
  id_setId (r : R) (n : Int) : Table.id (Table.setId r n) = n
  id_kept (r : R) : Table.id (Table.kept r) = Table.id r
  references_setId (r : R) (n : Int) : Table.references (Table.setId r n) = Table.references r
  holds_setRows (s : Store) (l : List R) (r : R) :
    ∀ ref ∈ Table.references r, (Table.setRows s l).holds ref = s.holds ref

instance : LawfulTable ClubRecord :=
  ⟨fun _ _ => rfl, fun _ _ _ => rfl, fun _ => rfl, fun _ _ => rfl, fun _ => rfl, fun _ _ => rfl,
    fun _ _ _ _ h => by cases h⟩

instance : LawfulTable TeamRecord :=
  ⟨fun _ _ => rfl, fun _ _ _ => rfl, fun _ => rfl, fun _ _ => rfl, fun _ => rfl, fun _ _ => rfl,
    fun _ _ _ ref h => by
      simp only [Table.references, List.mem_cons, List.mem_map] at h
      rcases h with rfl | ⟨_, _, rfl⟩ <;> rfl⟩

instance : LawfulTable PlayerRecord :=
  ⟨fun _ _ => rfl, fun _ _ _ => rfl, fun _ => rfl, fun _ _ => rfl, fun _ => rfl, fun _ _ => rfl,
    fun _ _ _ ref h => by
      simp only [Table.references, List.mem_singleton] at h
      rw [h]; rfl⟩

instance : LawfulTable MatchRecord :=
  ⟨fun _ _ => rfl, fun _ _ _ => rfl, fun _ => rfl, fun _ _ => rfl, fun _ => rfl, fun _ _ => rfl,
    fun _ _ _ ref h => by
      simp only [Table.references, List.mem_singleton] at h
      rw [h]; rfl⟩

instance : LawfulTable StatRecord :=
  ⟨fun _ _ => rfl, fun _ _ _ => rfl, fun _ => rfl, fun _ _ => rfl, fun _ => rfl, fun _ _ => rfl,
    fun _ _ _ ref h => by
      simp only [Table.references, List.mem_cons, List.not_mem_nil, or_false] at h
      rcases h with rfl | rfl <;> rfl⟩

instance : LawfulTable VariableRecord :=
  ⟨fun _ _ => rfl, fun _ _ _ => rfl, fun _ => rfl, fun _ _ => rfl, fun _ => rfl, fun _ _ => rfl,
    fun _ _ _ ref h => by
      simp only [Table.references, List.mem_singleton] at h
      rw [h]; rfl⟩

instance : LawfulTable RuleRecord :=
  ⟨fun _ _ => rfl, fun _ _ _ => rfl, fun _ => rfl, fun _ _ => rfl, fun _ => rfl, fun _ _ => rfl,
    fun _ _ _ ref h => by
      simp only [Table.references, List.mem_cons, List.mem_map] at h
      rcases h with rfl | ⟨_, _, rfl⟩ <;> rfl⟩

instance : LawfulTable ConditionRecord :=
  ⟨fun _ _ => rfl, fun _ _ _ => rfl, fun _ => rfl, fun _ _ => rfl, fun _ => rfl, fun _ _ => rfl,
    fun _ _ _ ref h => by
      simp only [Table.references, List.mem_singleton] at h
      rw [h]; rfl⟩

instance : LawfulTable ProfileRecord :=
  ⟨fun _ _ => rfl, fun _ _ _ => rfl, fun _ => rfl, fun _ _ => rfl, fun _ => rfl, fun _ _ => rfl,
    fun _ _ _ ref h => by
      simp only [Table.references, List.mem_singleton] at h
      rw [h]; rfl⟩

instance : LawfulTable ProfileRuleRecord :=
  ⟨fun _ _ => rfl, fun _ _ _ => rfl, fun _ => rfl, fun _ _ => rfl, fun _ => rfl, fun _ _ => rfl,
    fun _ _ _ ref h => by
      simp only [Table.references, List.mem_cons, List.not_mem_nil, or_false] at h
      rcases h with rfl | rfl <;> rfl⟩

instance : LawfulTable EntryRecord :=
  ⟨fun _ _ => rfl, fun _ _ _ => rfl, fun _ => rfl, fun _ _ => rfl, fun _ => rfl, fun _ _ => rfl,
    fun _ _ _ ref h => by
      simp only [Table.references, List.mem_cons, List.not_mem_nil, or_false] at h
      rcases h with rfl | rfl | rfl | rfl <;> rfl⟩

namespace Store

variable {R : Type} [Table R]

/-! ## A row among others -/

theorem placed_eq (others : List R) (r : R) :
    ∃ lower upper, others = lower ++ upper ∧ placed others r = lower ++ Table.kept r :: upper :=
  ⟨_, _, (List.takeWhile_append_dropWhile (p := fun x => decide (Table.id x < Table.id r))).symm,
    by simp only [placed, List.span_eq_takeWhile_dropWhile]⟩

theorem perm_placed (others : List R) (r : R) :
    (placed others r).Perm (Table.kept r :: others) := by
  obtain ⟨lower, upper, rfl, h⟩ := placed_eq others r
  rw [h]
  exact List.perm_middle

@[simp] theorem mem_placed {others : List R} {r x : R} :
    x ∈ placed others r ↔ x = Table.kept r ∨ x ∈ others := by
  rw [(perm_placed others r).mem_iff, List.mem_cons]

theorem filter_placed {others : List R} {r : R} {p : R → Bool} (h : p (Table.kept r) = false) :
    (placed others r).filter p = others.filter p := by
  obtain ⟨lower, upper, rfl, hp⟩ := placed_eq others r
  rw [hp, List.filter_append, List.filter_cons_of_neg (by simp [h]), List.filter_append]

/-! ## Accepting a row -/

theorem some_else_eq_none {α : Type} {c : Prop} [Decidable c] {a : α} {x : Option α} :
    (if c then some a else x) = none ↔ ¬c ∧ x = none := by
  split <;> simp [*]

theorem fault?_eq_none {others : List R} {r : R} :
    fault? others r = none ↔
      (∀ n ∈ Table.id r :: Table.words r, fitsWord n = true) ∧ Table.fault? r = none ∧
        (∀ x ∈ others, Table.id x ≠ Table.id r) ∧ ∀ x ∈ others, Table.clashes x r = false := by
  unfold fault?
  rw [some_else_eq_none]
  refine and_congr (by simp) ?_
  cases Table.fault? r with
  | some fault => simp
  | none => simp only [some_else_eq_none]; simp

theorem put_eq_ok {s t : Store} {others : List R} {r : R} :
    s.put others r = .ok t ↔
      fault? others r = none ∧ (∀ ref ∈ Table.references r, s.holds ref = true) ∧
        t = Table.setRows s (placed others r) := by
  unfold put
  cases hf : fault? others r with
  | some fault => simp
  | none =>
    by_cases hr : (Table.references r).all s.holds = true
    · simp only [hr, ↓reduceIte, Except.ok.injEq, true_and]
      rw [List.all_eq_true] at hr
      exact ⟨fun h => ⟨hr, h.symm⟩, fun h => h.2.symm⟩
    · simp only [hr, Bool.false_eq_true, ↓reduceIte, reduceCtorEq, true_and, false_iff]
      intro h
      exact hr (List.all_eq_true.mpr h.1)

structure Inserted (s : Store) (r : R) (t : Store) : Prop where
  sound : fault? (Table.rows s) r = none
  refers : ∀ ref ∈ Table.references r, s.holds ref = true
  store : t = Table.setRows s (placed (Table.rows s) r)

theorem insert_eq_ok {s t : Store} {r r' : R} :
    s.insert r = .ok (t, r') ↔ r' = Table.setId r (s.nextId R) ∧ Inserted s r' t := by
  simp only [insert, insertNumbered, map_eq_ok, put_eq_ok, Prod.mk.injEq]
  constructor
  · rintro ⟨_, ⟨hf, hr, rfl⟩, rfl, rfl⟩
    exact ⟨rfl, hf, hr, rfl⟩
  · rintro ⟨rfl, hf, hr, rfl⟩
    exact ⟨_, ⟨hf, hr, rfl⟩, rfl, rfl⟩

theorem update_eq_ok {s t : Store} {r : R} :
    s.update r = .ok t ↔
      fault? ((Table.rows s).filter fun x => Table.id x != Table.id r) r = none ∧
        (∀ ref ∈ Table.references r, s.holds ref = true) ∧
        t = Table.setRows s (placed ((Table.rows s).filter fun x => Table.id x != Table.id r) r) :=
  put_eq_ok

/-! ## Many rows -/

def placedAll (others rs : List R) : List R := rs.foldl placed others

theorem placedAll_cons (others : List R) (r : R) (rs : List R) :
    placedAll others (r :: rs) = placedAll (placed others r) rs := rfl

theorem perm_placedAll (others rs : List R) :
    (placedAll others rs).Perm (rs.map Table.kept ++ others) := by
  induction rs generalizing others with
  | nil => exact List.Perm.refl _
  | cons r rs ih =>
    calc (placedAll (placed others r) rs).Perm (rs.map Table.kept ++ placed others r) := ih _
      List.Perm _ (rs.map Table.kept ++ Table.kept r :: others) :=
        (perm_placed others r).append_left _
      List.Perm _ (Table.kept r :: (rs.map Table.kept ++ others)) := List.perm_middle

theorem mem_placedAll {others rs : List R} {x : R} :
    x ∈ placedAll others rs ↔ (∃ r ∈ rs, Table.kept r = x) ∨ x ∈ others := by
  rw [(perm_placedAll others rs).mem_iff, List.mem_append, List.mem_map]

theorem filter_placedAll {others rs : List R} {p : R → Bool}
    (h : ∀ r ∈ rs, p (Table.kept r) = false) : (placedAll others rs).filter p = others.filter p := by
  induction rs generalizing others with
  | nil => rfl
  | cons r rs ih =>
    rw [placedAll_cons, ih fun x hx => h x (List.mem_cons_of_mem _ hx), filter_placed (h r (by simp))]

theorem perm_filter_placedAll {rows rs : List R} {p : R → Bool}
    (h : ∀ r ∈ rs, p (Table.kept r) = true) :
    ((placedAll (rows.filter fun r => !p r) rs).filter p).Perm (rs.map Table.kept) := by
  have hnew : (rs.map Table.kept).filter p = rs.map Table.kept :=
    List.filter_eq_self.mpr (List.forall_mem_map.mpr h)
  have hold : (rows.filter fun r => !p r).filter p = [] := by
    rw [List.filter_filter]
    simp
  have hperm := (perm_placedAll (rows.filter fun r => !p r) rs).filter p
  rwa [List.filter_append, hnew, hold, List.append_nil] at hperm

structure InsertedAll (s : Store) (rs numbered : List R) (t : Store) : Prop where
  numbers : List.Forall₂ (fun r r' => ∃ n, r' = Table.setId r n) rs numbered
  refers : ∀ r ∈ numbered, ∀ ref ∈ Table.references r, s.holds ref = true
  sound : ∀ r ∈ numbered, Table.fault? r = none ∧ ∀ n ∈ Table.words r, fitsWord n = true
  ids : ((Table.rows s : List R).map Table.id).Nodup →
    ((placedAll (Table.rows s) numbered).map Table.id).Nodup
  store : t = Table.setRows s (placedAll (Table.rows s) numbered)

section
variable [LawfulTable R]

theorem nodup_placed {others : List R} {r : R} (h : (others.map Table.id).Nodup)
    (hr : ∀ x ∈ others, Table.id x ≠ Table.id r) : ((placed others r).map Table.id).Nodup := by
  rw [((perm_placed others r).map _).nodup_iff, List.map_cons, LawfulTable.id_kept,
    List.nodup_cons, List.mem_map]
  exact ⟨fun ⟨x, hx, hxr⟩ => hr x hx hxr, h⟩

theorem insertAll_eq_ok {s t : Store} {rs numbered : List R}
    (h : s.insertAll rs = .ok (t, numbered)) : InsertedAll s rs numbered t := by
  induction rs generalizing s numbered with
  | nil =>
    simp only [insertAll, Except.ok.injEq, Prod.mk.injEq] at h
    obtain ⟨rfl, rfl⟩ := h
    exact ⟨.nil, nofun, nofun, id, (LawfulTable.setRows_rows s).symm⟩
  | cons r rs ih =>
    simp only [insertAll, bind_eq_ok, Prod.exists, pure_eq_ok, Prod.mk.injEq] at h
    obtain ⟨u, r', hr, _, rest, hrest, rfl, rfl⟩ := h
    obtain ⟨hr', hfault, hrefers, rfl⟩ := insert_eq_ok.mp hr
    obtain ⟨hfit, hsound, hfresh, -⟩ := fault?_eq_none.mp hfault
    have hall := ih hrest
    -- the later rows are stored in a store that differs in this table only
    have hrows : Table.rows (Table.setRows s (placed (Table.rows s) r')) =
        placed (Table.rows s) r' := LawfulTable.rows_setRows ..
    refine ⟨.cons ⟨_, hr'⟩ hall.numbers, ?_, ?_, ?_, ?_⟩
    · intro x hx ref href
      rcases List.mem_cons.mp hx with rfl | hx
      · exact hrefers ref href
      · rw [← LawfulTable.holds_setRows s _ x ref href]
        exact hall.refers x hx ref href
    · intro x hx
      rcases List.mem_cons.mp hx with rfl | hx
      · exact ⟨hsound, fun n hn => hfit n (List.mem_cons_of_mem _ hn)⟩
      · exact hall.sound x hx
    · intro hn
      have := hall.ids
      rw [hrows] at this
      exact this (nodup_placed hn hfresh)
    · rw [hall.store, hrows, LawfulTable.setRows_setRows, placedAll_cons]

theorem find?_placed {others : List R} {r : R} (h : ∀ x ∈ others, Table.id x ≠ Table.id r) :
    (placed others r).find? (fun x => Table.id x == Table.id r) = some (Table.kept r) := by
  obtain ⟨lower, upper, rfl, hp⟩ := placed_eq others r
  have hl : lower.find? (fun x => Table.id x == Table.id r) = none :=
    List.find?_eq_none.mpr fun x hx => by simpa using h x (List.mem_append_left _ hx)
  rw [hp, List.find?_append, hl, Option.none_or, List.find?_cons_of_pos]
  simpa using LawfulTable.id_kept r

end

/-- Storing rows carries over to a store that differs only where these rows do not look. -/
theorem insertAll_map (f : Store → Store) (hrows : ∀ s, Table.rows (f s) = (Table.rows s : List R))
    (hset : ∀ s (l : List R), Table.setRows (f s) l = f (Table.setRows s l))
    (hholds : ∀ s ref, (f s).holds ref = s.holds ref) (s : Store) (rs : List R) :
    (f s).insertAll rs = (s.insertAll rs).map fun x => (f x.1, x.2) := by
  induction rs generalizing s with
  | nil => rfl
  | cons r rs ih =>
    have hid : (f s).nextId R = s.nextId R := by
      unfold nextId freeId
      rw [hrows]
    have hone : (f s).insert r = (s.insert r).map fun x => (f x.1, x.2) := by
      have hh : (f s).holds = s.holds := funext (hholds s)
      simp only [insert, insertNumbered, put, hid, hrows, hset, hh]
      split
      · rfl
      · split <;> rfl
    simp only [insertAll, hone]
    cases hi : s.insert r with
    | error fault => rfl
    | ok x =>
      obtain ⟨u, r'⟩ := x
      simp only [Except.map, bind, Except.bind, ih]
      cases u.insertAll rs <;> rfl

/-! ## Looking up rows -/

theorem find?_eq_some {s : Store} {id : Int} {r : R} (h : s.find? id = some r) :
    r ∈ (Table.rows s : List R) ∧ Table.id r = id :=
  ⟨List.mem_of_find?_eq_some h, by simpa using List.find?_some h⟩

theorem any_of_find? {s : Store} {id : Int} {r : R} (h : s.find? id = some r) :
    ((Table.rows s : List R).any fun x => Table.id x == id) = true := by
  obtain ⟨hmem, hid⟩ := find?_eq_some h
  exact List.any_eq_true.mpr ⟨r, hmem, beq_iff_eq.mpr hid⟩

theorem find?_of_mem {s : Store} {r : R} (hn : ((Table.rows s : List R).map Table.id).Nodup)
    (h : r ∈ (Table.rows s : List R)) : s.find? (Table.id r) = some r := by
  obtain ⟨x, hx⟩ : ∃ x : R, s.find? (Table.id r) = some x :=
    Option.isSome_iff_exists.mp (List.find?_isSome.mpr ⟨r, h, by simp⟩)
  obtain ⟨hmem, hid⟩ := find?_eq_some hx
  rw [hx, List.inj_on_of_nodup_map hn hmem h hid]

theorem checkWord_eq_ok {id : Int} {u : Unit} : checkWord id = .ok u ↔ fitsWord id = true := by
  unfold checkWord
  split <;> simp [*]

theorem lookup_eq_ok {s : Store} {id : Int} {x : Option R} :
    s.lookup R id = .ok x ↔ fitsWord id = true ∧ s.find? id = x := by
  unfold lookup
  simp only [bind_eq_ok, exists_const, checkWord_eq_ok, pure_eq_ok]

theorem get_eq_ok {s : Store} {id : Int} {what : Missing} {r : R} :
    s.get R id what = .ok r ↔ fitsWord id = true ∧ s.find? id = some r := by
  unfold get
  simp only [bind_eq_ok, lookup_eq_ok]
  constructor
  · rintro ⟨x, ⟨hid, hx⟩, h⟩
    cases x with
    | none => simp at h
    | some y => exact ⟨hid, by rw [hx, pure_eq_ok.mp h]⟩
  · rintro ⟨hid, hx⟩
    exact ⟨some r, ⟨hid, hx⟩, rfl⟩

end Store

end ClubPoints
