import ClubPoints.Proofs.Outcomes
import ClubPoints.Request.Action

/-!
# Submitted forms

The form that an action carries was read from the document that the request sent along
(`isSubmitted_of_action`), so whatever reading a form checks is known of it.
-/

namespace ClubPoints

namespace Form

/-! ## Checked values -/

namespace Checked

variable {α β : Type}

theorem fmap_eq_valid {f : α → β} {x : Checked α} {b : β} :
    f <$> x = .valid b ↔ ∃ a, x = .valid a ∧ f a = b := by
  cases x <;> simp [Functor.map, map]

theorem app_eq_valid {f : Checked (α → β)} {x : Checked α} {b : β} :
    f <*> x = .valid b ↔ ∃ g a, f = .valid g ∧ x = .valid a ∧ g a = b :=
  seq_eq_valid

@[simp] theorem under_eq_valid {step : Step} {x : Checked α} {a : α} :
    x.under step = .valid a ↔ x = .valid a := by
  cases x <;> simp [under]

theorem andThen_eq_valid {x : Checked α} {check : α → Checked β} {b : β} :
    x.andThen check = .valid b ↔ ∃ a, x = .valid a ∧ check a = .valid b := by
  cases x <;> simp [andThen]

theorem all_eq_valid {read : Nat → α → Checked β} {n : Nat} {xs : List α} {ys : List β}
    (h : all read n xs = .valid ys) : ∀ y ∈ ys, ∃ k, ∃ x ∈ xs, read k x = .valid y := by
  induction xs generalizing n ys with
  | nil => cases h; nofun
  | cons x rest ih =>
    obtain ⟨_, more, hx, hrest, rfl⟩ := seq_eq_valid.mp h
    obtain ⟨y, hy, rfl⟩ := fmap_eq_valid.mp hx
    intro z hz
    rcases List.mem_cons.mp hz with rfl | hz
    · exact ⟨n, x, by simp, hy⟩
    · obtain ⟨k, w, hw, hz⟩ := ih hrest z hz
      exact ⟨k, w, List.mem_cons_of_mem _ hw, hz⟩

end Checked

open Checked

variable {α : Type}

theorem listOf_eq_valid {read : Value → Checked α} {v : Value} {ys : List α}
    (h : listOf read v = .valid ys) : ∀ y ∈ ys, ∃ x, read x = .valid y := by
  cases v with
  | list items =>
    intro y hy
    obtain ⟨_, x, -, hx⟩ := all_eq_valid h y hy
    exact ⟨x, under_eq_valid.mp hx⟩
  | _ => cases h

theorem required_eq_valid {fields : Fields} {name : String} {read : Value → Checked α} {a : α}
    (h : Fields.required fields name read = .valid a) : ∃ v, read v = .valid a := by
  unfold Fields.required at h
  cases hv : fields.lookup name with
  | none => rw [hv] at h; cases h
  | some v =>
    rw [hv] at h
    exact ⟨v, under_eq_valid.mp h⟩

theorem defaulted_eq_valid {fields : Fields} {name : String} {default a : α}
    {read : Value → Checked α} (h : Fields.defaulted fields name default read = .valid a) :
    a = default ∨ ∃ v, read v = .valid a := by
  unfold Fields.defaulted at h
  cases hv : fields.lookup name with
  | none =>
    rw [hv] at h
    cases h
    exact .inl rfl
  | some v =>
    rw [hv] at h
    exact .inr ⟨v, under_eq_valid.mp h⟩

theorem object_eq_valid {shape : Shape} {build : Fields → Checked α} {v : Value} {a : α}
    (h : object shape build v = .valid a) : ∃ fields, build fields = .valid a := by
  unfold object at h
  cases hv : shape.fields? v with
  | none => rw [hv] at h; cases h
  | some fields =>
    rw [hv] at h
    exact ⟨fields, h⟩

/-! ## Whole numbers within limits -/

def Limit.Keeps (limit : Limit) (n : Int) : Prop :=
  match limit with
  | .above m => m < n
  | .atLeast m => m ≤ n
  | .atMost m => n ≤ m

theorem Limit.check_eq_valid {limit : Limit} {found : Value} {x n : Int} :
    limit.check found x = .valid n ↔ x = n ∧ limit.Keeps n := by
  cases limit <;> simp only [Limit.check, Limit.Keeps] <;> split <;> simp [Checked.fault] <;> omega

/-- A number that was read keeps every limit it was checked against. -/
theorem whole_keeps {limits : List Limit} {v : Value} {n : Int} (h : whole limits v = .valid n) :
    ∀ limit ∈ limits, limit.Keeps n := by
  unfold whole at h
  generalize anyWhole v = x at h
  induction limits generalizing x with
  | nil => nofun
  | cons limit rest ih =>
    intro l hl
    rcases List.mem_cons.mp hl with rfl | hl
    · -- the later checks hand on the number that the first one found
      clear ih hl
      rw [List.foldl_cons] at h
      have : x.andThen (l.check v) = .valid n := by
        generalize x.andThen (l.check v) = y at h ⊢
        induction rest generalizing y with
        | nil => exact h
        | cons m rest ih =>
          obtain ⟨_, hy, hm⟩ := andThen_eq_valid.mp (ih _ h)
          rw [hy, (Limit.check_eq_valid.mp hm).1]
      obtain ⟨_, -, hx⟩ := andThen_eq_valid.mp this
      exact (Limit.check_eq_valid.mp hx).2
    · exact ih _ h l hl

theorem rowId_pos {v : Value} {n : Int} (h : rowId v = .valid n) : 0 < n :=
  whole_keeps h (.above 0) (by simp)

/-! ## Forms -/

structure AssignmentForm.InBounds (f : AssignmentForm) : Prop where
  ruleId : 0 < f.ruleId
  playerId : 0 < f.playerId
  least : 0 ≤ f.count
  most : f.count ≤ 99

theorem AssignmentForm.inBounds_of_read {shape : Shape} {v : Value} {f : AssignmentForm}
    (h : AssignmentForm.read shape v = .valid f) : f.InBounds := by
  obtain ⟨fields, h⟩ := object_eq_valid h
  simp only [app_eq_valid, fmap_eq_valid] at h
  obtain ⟨_, n, ⟨_, p, ⟨r, hr, rfl⟩, hp, rfl⟩, hn, rfl⟩ := h
  obtain ⟨_, hr⟩ := required_eq_valid hr
  obtain ⟨_, hp⟩ := required_eq_valid hp
  obtain ⟨_, hn⟩ := required_eq_valid hn
  exact ⟨rowId_pos hr, rowId_pos hp, whole_keeps hn (.atLeast 0) (by simp),
    whole_keeps hn (.atMost 99) (by simp)⟩

theorem CompletionForm.inBounds_of_read {shape : Shape} {v : Value} {f : CompletionForm}
    (h : CompletionForm.read shape v = .valid f) : ∀ a ∈ f.assignments, a.InBounds := by
  obtain ⟨fields, h⟩ := object_eq_valid h
  simp only [app_eq_valid, fmap_eq_valid] at h
  obtain ⟨_, assignments, ⟨_, _, ⟨facts, -, rfl⟩, -, rfl⟩, hassignments, rfl⟩ := h
  intro a ha
  rcases defaulted_eq_valid hassignments with rfl | ⟨v, hv⟩
  · cases ha
  · obtain ⟨_, hx⟩ := listOf_eq_valid hv a ha
    exact AssignmentForm.inBounds_of_read hx

def Submitted {F : Type} (read : Shape → Value → Checked F) (f : F) : Prop :=
  ∃ v, read .record v = .valid f

end Form

open Form Form.Checked

/-! ## Actions -/

def Action.IsSubmitted : Action → Prop
  | .createClub form => Submitted ClubForm.read form
  | .createTeam form => Submitted TeamForm.read form
  | .setTeamProfile _ form => Submitted TeamProfileForm.read form
  | .createPlayer form => Submitted PlayerForm.read form
  | .createMatch form => Submitted FixtureForm.read form
  | .completeMatch _ form => Submitted CompletionForm.read form
  | .previewMatch _ _ form => Submitted FactsForm.read form
  | .checkRule form => Submitted RuleForm.read form
  | .createRule form => Submitted RuleForm.read form
  | .setRuleActive _ form => Submitted ActivityForm.read form
  | .previewRule _ form => Submitted FactsForm.read form
  | .createVariable form => Submitted VariableForm.read form
  | .setVariableActive _ form => Submitted ActivityForm.read form
  | .createProfile form => Submitted ProfileForm.read form
  | _ => True

namespace Endpoint

def IsSound (e : Endpoint) : Prop :=
  ∀ r document a, e.read r document = .valid a → a.IsSubmitted

theorem plain_isSound {read : Request → Checked Action}
    (h : ∀ r a, read r = .valid a → a.IsSubmitted) : (plain read).IsSound :=
  fun r _ a ha => h r a ha

theorem submitting_isSound {F : Type} {form : Shape → Value → Checked F}
    {read : Request → Checked (F → Action)}
    (h : ∀ r build, read r = .valid build → ∀ f, Submitted form f → (build f).IsSubmitted) :
    (submitting form read).IsSound := by
  intro r document a ha
  obtain ⟨build, f, hbuild, hf, rfl⟩ := app_eq_valid.mp ha
  cases document with
  | none => cases hf
  | some v => exact h r build hbuild f ⟨v, under_eq_valid.mp hf⟩

theorem submitting_valid_isSound {F : Type} {form : Shape → Value → Checked F} {build : F → Action}
    (h : ∀ f, Submitted form f → (build f).IsSubmitted) :
    (submitting form fun _ => .valid build).IsSound :=
  submitting_isSound fun _ _ hb => by cases hb; exact h

theorem submitting_inPath_isSound {F : Type} {form : Shape → Value → Checked F}
    {build : Int → F → Action} {name raw : String}
    (h : ∀ id f, Submitted form f → (build id f).IsSubmitted) :
    (submitting form fun _ => build <$> Request.inPath name raw).IsSound :=
  submitting_isSound fun _ _ hb => by
    obtain ⟨id, -, rfl⟩ := fmap_eq_valid.mp hb
    exact h id

theorem isSound_of_find? {method : Method} {segments : List String} {e : Endpoint}
    (h : find? method segments = some e) : e.IsSound := by
  unfold find? at h
  split at h <;> cases h
  all_goals first
    -- the endpoints that read a document
    | exact submitting_valid_isSound fun _ hf => hf
    | exact submitting_inPath_isSound fun _ _ hf => hf
    | refine submitting_isSound fun r build hb f hf => ?_
      simp only [app_eq_valid, fmap_eq_valid] at hb
      obtain ⟨_, _, ⟨_, -, rfl⟩, -, rfl⟩ := hb
      exact hf
    -- the others carry no form
    | refine plain_isSound fun r a ha => ?_
      simp only [app_eq_valid, fmap_eq_valid, valid.injEq] at ha
  all_goals first
    | subst ha; trivial
    | obtain ⟨_, -, rfl⟩ := ha; trivial
    | obtain ⟨_, _, ⟨_, -, rfl⟩, -, rfl⟩ := ha; trivial
    | obtain ⟨_, _, ⟨_, _, ⟨_, -, rfl⟩, -, rfl⟩, -, rfl⟩ := ha; trivial

end Endpoint

namespace Request

theorem endpoint_eq_ok {r : Request} {e : Endpoint} (h : r.endpoint = .ok e) :
    ∃ segments, Endpoint.find? r.method segments = some e := by
  unfold endpoint at h
  split at h
  · rename_i segments _
    split at h
    · cases h
    · split at h
      · rename_i he
        cases h
        exact ⟨segments, he⟩
      · split at h <;> cases h
  · cases h

theorem read_of_action {r : Request} {a : Action} (h : r.action = .ok a) :
    ∃ e document, r.endpoint = .ok e ∧ e.read r document = .valid a := by
  unfold action at h
  obtain ⟨e, he, h⟩ := bind_eq_ok.mp h
  dsimp only at h
  -- whether or not the endpoint reads a document
  split at h
  all_goals
    obtain ⟨document, -, h⟩ := bind_eq_ok.mp h
    refine ⟨e, document, he, ?_⟩
    cases hread : e.read r document with
    | valid b => rw [hread] at h; cases h; rfl
    | invalid complaints => rw [hread] at h; cases h

theorem isSubmitted_of_action {r : Request} {a : Action} (h : r.action = .ok a) :
    a.IsSubmitted := by
  obtain ⟨e, document, he, hread⟩ := read_of_action h
  obtain ⟨segments, hfind⟩ := endpoint_eq_ok he
  exact Endpoint.isSound_of_find? hfind r document a hread

theorem inBounds_of_action {r : Request} {id : Int} {form : CompletionForm}
    (h : r.action = .ok (.completeMatch id form)) : ∀ a ∈ form.assignments, a.InBounds := by
  obtain ⟨v, hv⟩ := isSubmitted_of_action h
  exact CompletionForm.inBounds_of_read hv

end Request

end ClubPoints
