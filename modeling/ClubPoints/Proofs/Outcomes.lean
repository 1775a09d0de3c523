import Mathlib.Data.List.Forall2
import ClubPoints.Service.Cause

/-!
# Outcomes that went well

What is known when a chain of steps that may fail has given a result: every step of it has given
one. Steps are peeled off a chain one by one with `bind_eq_ok`, and off a chain that has failed with
`bind_eq_error`.
-/

namespace ClubPoints

variable {ε ε' α β : Type}

theorem bind_eq_ok {x : Except ε α} {f : α → Except ε β} {b : β} :
    x >>= f = .ok b ↔ ∃ a, x = .ok a ∧ f a = .ok b := by
  cases x <;> simp [bind, Except.bind]

theorem bind_eq_error {x : Except ε α} {f : α → Except ε β} {e : ε} :
    x >>= f = .error e ↔ x = .error e ∨ ∃ a, x = .ok a ∧ f a = .error e := by
  cases x <;> simp [bind, Except.bind]

theorem bind_congr_ok {x : Except ε α} {f g : α → Except ε β} (h : ∀ a, x = .ok a → f a = g a) :
    x >>= f = x >>= g := by
  cases x with
  | error e => rfl
  | ok a => exact h a rfl

theorem map_eq_ok {x : Except ε α} {f : α → β} {b : β} :
    x.map f = .ok b ↔ ∃ a, x = .ok a ∧ f a = b := by
  cases x <;> simp [Except.map]

theorem renamed_eq_ok (f : ε → ε') (x : Except ε α) (a : α) :
    Except.mapError f x = .ok a ↔ x = .ok a := by
  cases x with
  | ok b => simp [Except.mapError]
  | error e => exact ⟨nofun, nofun⟩

theorem toOption_eq_some {x : Except ε α} {a : α} : x.toOption = some a ↔ x = .ok a := by
  cases x <;> simp [Except.toOption]

theorem exists_eq_ok {x : Except ε α} (h : x.toOption.isSome = true) : ∃ a, x = .ok a := by
  obtain ⟨a, ha⟩ := Option.isSome_iff_exists.mp h
  exact ⟨a, toOption_eq_some.mp ha⟩

/-- Two outcomes that go well together, and then alike, are the same up to the fault. -/
theorem agree_of_ok {x x' : Except ε α} (hexists : (∃ a, x' = .ok a) ↔ ∃ a, x = .ok a)
    (hsame : ∀ a' a, x' = .ok a' → x = .ok a → a' = a) :
    ((∃ e, x' = .error e) ↔ ∃ e, x = .error e) ∧ ∀ a, x' = .ok a ↔ x = .ok a := by
  cases x with
  | error e => cases x' <;> simp_all
  | ok a =>
    cases x' with
    | error e => simp at hexists
    | ok a' => simp [hsame a' a rfl rfl]

@[simp] theorem pure_eq_ok {a b : α} : (pure a : Except ε α) = .ok b ↔ a = b := by
  simp [pure, Except.pure]

theorem judge_eq_ok {x : Except Fault α} {a : α} : Cause.judge x = .ok a ↔ x = .ok a :=
  renamed_eq_ok _ _ _

theorem mapM_eq_ok {f : α → Except ε β} {xs : List α} {ys : List β} :
    xs.mapM f = .ok ys ↔ List.Forall₂ (fun x y => f x = .ok y) xs ys := by
  induction xs generalizing ys with
  | nil => cases ys <;> simp
  | cons x xs ih =>
    simp only [List.mapM_cons, bind_eq_ok, pure_eq_ok]
    constructor
    · rintro ⟨y, hy, rest, hrest, rfl⟩
      exact .cons hy (ih.mp hrest)
    · intro h
      cases h with
      | cons hy hrest => exact ⟨_, hy, _, ih.mpr hrest, rfl⟩

theorem exists_of_forall₂ {R : α → β → Prop} {xs : List α} {ys : List β}
    (h : List.Forall₂ R xs ys) : ∀ y ∈ ys, ∃ x ∈ xs, R x y := by
  induction h with
  | nil => nofun
  | cons hxy _ ih =>
    intro z hz
    rcases List.mem_cons.mp hz with rfl | hz
    · exact ⟨_, List.mem_cons_self, hxy⟩
    · obtain ⟨x, hx, hxz⟩ := ih z hz
      exact ⟨x, List.mem_cons_of_mem _ hx, hxz⟩

theorem map_eq_of_forall₂ {κ : Type} {R : α → β → Prop} {f : α → κ} {g : β → κ} {xs : List α}
    {ys : List β} (h : List.Forall₂ R xs ys) (hfg : ∀ x y, R x y → g y = f x) :
    ys.map g = xs.map f := by
  induction h with
  | nil => rfl
  | cons hxy _ ih => rw [List.map_cons, List.map_cons, ih, hfg _ _ hxy]

theorem mapM_eq_of_forall₂ {γ : Type} {R : α → β → Prop} {f : α → Except ε γ} {g : β → Except ε γ}
    {xs : List α} {ys : List β} (h : List.Forall₂ R xs ys) (hfg : ∀ x y, R x y → g y = f x) :
    ys.mapM g = xs.mapM f := by
  induction h with
  | nil => rfl
  | cons hxy _ ih => rw [List.mapM_cons, List.mapM_cons, ih, hfg _ _ hxy]

theorem mapM_congr {f g : α → Except ε β} {xs : List α} (h : ∀ x ∈ xs, f x = g x) :
    xs.mapM f = xs.mapM g := by
  induction xs with
  | nil => rfl
  | cons x xs ih =>
    rw [List.mapM_cons, List.mapM_cons, h x (by simp), ih fun y hy => h y (List.mem_cons_of_mem _ hy)]

theorem mapM_total {f : α → Except ε β} {xs : List α} (h : ∀ x ∈ xs, ∃ y, f x = .ok y) :
    ∃ ys, xs.mapM f = .ok ys := by
  induction xs with
  | nil => exact ⟨[], rfl⟩
  | cons x xs ih =>
    obtain ⟨y, hy⟩ := h x (by simp)
    obtain ⟨ys, hys⟩ := ih fun z hz => h z (List.mem_cons_of_mem _ hz)
    exact ⟨y :: ys, by rw [List.mapM_cons, hy, hys]; rfl⟩

theorem exists_mapM_iff {f : α → Except ε β} {xs : List α} :
    (∃ ys, xs.mapM f = .ok ys) ↔ ∀ x ∈ xs, ∃ y, f x = .ok y := by
  refine ⟨?_, mapM_total⟩
  rintro ⟨ys, h⟩ x hx
  replace h := mapM_eq_ok.mp h
  induction h with
  | nil => cases hx
  | cons hy _ ih =>
    rcases List.mem_cons.mp hx with rfl | hx
    · exact ⟨_, hy⟩
    · exact ih hx

theorem exists_mapM_some {f : α → Option β} {xs : List α} (h : ∀ x ∈ xs, ∃ y, f x = some y) :
    ∃ ys, xs.mapM f = some ys ∧ ∀ y, y ∈ ys ↔ ∃ x ∈ xs, f x = some y := by
  induction xs with
  | nil => exact ⟨[], rfl, fun y => by simp⟩
  | cons x xs ih =>
    obtain ⟨y, hy⟩ := h x (by simp)
    obtain ⟨ys, hys, hmem⟩ := ih fun z hz => h z (List.mem_cons_of_mem _ hz)
    refine ⟨y :: ys, by rw [List.mapM_cons, hy, hys]; rfl, fun z => ?_⟩
    rw [List.mem_cons, hmem, List.exists_mem_cons_iff, hy, Option.some.injEq, eq_comm]

def found (x : Except ε (List α)) : List α := x.toOption.getD []

@[simp] theorem found_ok (l : List α) : found (.ok l : Except ε (List α)) = l := rfl

theorem flatten_of_mapM {f : α → Except ε (List β)} {xs : List α} {ys : List (List β)}
    (h : xs.mapM f = .ok ys) : ys.flatten = xs.flatMap fun x => found (f x) := by
  replace h := mapM_eq_ok.mp h
  induction h with
  | nil => rfl
  | cons hy _ ih => rw [List.flatten_cons, List.flatMap_cons, ih, hy, found_ok]

theorem flatten_mapM_filter {f : α → Except ε (List β)} {keep : α → Bool} {xs : List α}
    (h : ∀ x ∈ xs, keep x = false → f x = .ok []) :
    ((xs.filter keep).mapM f).map List.flatten = (xs.mapM f).map List.flatten := by
  induction xs with
  | nil => rfl
  | cons x rest ih =>
    obtain ⟨hx, hrest⟩ := List.forall_mem_cons.mp h
    have hcons (y : List β) (ys : Except ε (List (List β))) :
        (ys.map (y :: ·)).map List.flatten = (ys.map List.flatten).map (y ++ ·) := by
      cases ys <;> rfl
    have hmapM (zs : List α) : (x :: zs).mapM f = (f x).bind fun y => (zs.mapM f).map (y :: ·) := by
      rw [List.mapM_cons]
      rfl
    by_cases hk : keep x = true
    · rw [List.filter_cons_of_pos hk, hmapM, hmapM]
      cases f x with
      | error fault => rfl
      | ok y => exact (hcons y _).trans ((congrArg _ (ih hrest)).trans (hcons y _).symm)
    · rw [List.filter_cons_of_neg hk, ih hrest, hmapM, hx (Bool.eq_false_iff.mpr hk)]
      refine Eq.trans ?_ (hcons [] _).symm
      cases rest.mapM f <;> rfl

end ClubPoints
