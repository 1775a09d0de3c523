import ClubPoints.Proofs.Configuration

/-!
# What was checked of stored rows

Facts of rows that hold because the rows were accepted and that no operation changes (`Accepted`).
-/

namespace ClubPoints

namespace Store

variable {s t : Store}

/-! ## New numbers -/

theorem le_foldl {R : Type} {f : Int → R → Int} (hf : ∀ n r, n ≤ f n r) (rows : List R)
    (n : Int) : n ≤ rows.foldl f n := by
  induction rows generalizing n with
  | nil => exact Int.le_refl n
  | cons r rest ih => exact Int.le_trans (hf n r) (ih (f n r))

section
variable {R : Type} [Table R]

theorem freeId_pos (s : Store) : 1 ≤ s.freeId R := by
  refine le_foldl (fun n r => ?_) _ 1
  by_cases hr : Table.id r = n
  · rw [if_pos hr]
    omega
  · exact Int.le_of_eq (if_neg hr).symm

theorem nextId_pos (h : ∀ r ∈ (Table.rows s : List R), 1 ≤ Table.id r) : 1 ≤ s.nextId R := by
  unfold nextId
  cases hrows : (Table.rows s : List R) with
  | nil => exact Int.le_refl 1
  | cons r rest =>
    have hr : 1 ≤ Table.id r := h r (by rw [hrows]; exact List.mem_cons_self)
    have hmax : Table.id r ≤ rest.foldl (fun n r => max n (Table.id r)) (Table.id r) :=
      le_foldl (fun n r => Int.le_max_left n (Table.id r)) rest _
    dsimp only
    split
    · omega
    · exact freeId_pos s

end

/-! ## Accepted rows -/

structure Accepted (s : Store) : Prop where
  profileIds : ∀ p ∈ s.profiles, 1 ≤ p.id ∧ fitsWord p.id = true
  positions : ∀ r ∈ s.rules, ∃ positions : List Position,
    r.targetPositions = .list (positions.map fun p => .text p.name)

namespace Accepted

theorem empty : Accepted {} :=
  ⟨fun _ h => absurd h List.not_mem_nil, fun _ h => absurd h List.not_mem_nil⟩

theorem beforeProfile (h : s.Accepted) (form : Form.ProfileForm) :
    (s.beforeProfile form).Accepted := by
  unfold Store.beforeProfile
  by_cases hdefault : form.isClubDefault = true
  · rw [if_pos hdefault]
    refine { h with profileIds := fun p hp => ?_ }
    obtain ⟨q, hq, rfl⟩ := List.mem_map.mp hp
    have hfits := h.profileIds q hq
    by_cases hclub : q.clubId = form.clubId <;> simpa [hclub] using hfits
  · rw [if_neg hdefault]
    exact h

theorem turns {policy : Policy} {a : Action} (h : s.Accepted) (ht : a.Turns policy s t) :
    t.Accepted := by
  constructor
  case profileIds =>
    rcases ht.touched.profiles with ⟨hprofiles, -⟩ | ⟨form, -, ht⟩
    · rw [hprofiles]
      exact h.profileIds
    · obtain ⟨profile, _, u, hnew, hprofile, hrules⟩ := createProfile_leads ht
      have hb := h.beforeProfile form
      obtain ⟨hfits, -⟩ := fault?_eq_none.mp hprofile.sound
      rw [hrules.store, hprofile.store]
      intro p hp
      rcases mem_placed.mp hp with hkept | hp
      · have hpos : 1 ≤ profile.id := by
          rw [hnew]
          exact nextId_pos fun q hq => (hb.profileIds q hq).1
        rw [hkept]
        exact ⟨hpos, hfits profile.id List.mem_cons_self⟩
      · exact hb.profileIds p hp
  case positions =>
    rcases ht.touched.rules with ⟨hrules, -⟩ | ⟨form, ht⟩ | ⟨id, form, ht⟩
    · rw [hrules]
      exact h.positions
    · obtain ⟨rule, _, _, hrecord, ⟨-, -, rfl⟩, hconditions⟩ := createRule_leads ht
      rw [hconditions.store]
      intro r hr
      rcases mem_placed.mp hr with rfl | hr
      · rw [hrecord]
        exact ⟨_, congrArg Value.list (apply_ite (List.map fun p : Position => Value.text p.name)
          (_ = TargetScope.byPosition) _ []).symm⟩
      · exact h.positions r hr
    · obtain ⟨rule, hrule, hu⟩ := setRuleActive_leads ht
      obtain ⟨-, -, rfl⟩ := update_eq_ok.mp hu
      intro r hr
      rcases mem_placed.mp hr with rfl | hr
      · exact h.positions rule (find?_eq_some hrule).1
      · exact h.positions r (List.mem_filter.mp hr).1

end Accepted

theorem Reachable.accepted (h : s.Reachable) : s.Accepted :=
  h.induction .empty fun _ _ _ _ _ hs _ ht => hs.turns ht

end Store

end ClubPoints
