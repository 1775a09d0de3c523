import ClubPoints.Form.Facts
import ClubPoints.Proofs.Outcomes
import ClubPoints.Service.Loading

/-!
# What stored rules and noted facts read as

A variable reads as a fact that was noted, as a default, or as zero; so whatever holds of those holds
of all that is looked up in the facts of a form (`Registry.lookup_of`, `FactsForm.fact_of`,
`StatForm.fact_of`).
-/

namespace ClubPoints

/-! ## Stored rules -/

def Condition.IsStored (c : Condition) : Prop :=
  ∃ x, c.value = Value.literalOfReal x

theorem RuleRecord.rule_eq_ok {row : RuleRecord} {conditions : List ConditionRecord} {rule : Rule}
    (h : row.rule conditions = .ok rule) :
    rule.kind ≠ .unclassified ∧ ∀ c ∈ rule.conditions, c.IsStored := by
  unfold RuleRecord.rule at h
  obtain ⟨named, -, h⟩ := bind_eq_ok.mp h
  obtain ⟨positions, -, h⟩ := bind_eq_ok.mp h
  cases h
  constructor
  · unfold Category.kind
    cases row.category <;> simp
  · intro c hc
    obtain ⟨x, -, rfl⟩ := List.mem_map.mp hc
    exact ⟨x.value, rfl⟩

/-! ## Entries that were placed -/

namespace Keyed

variable {α β κ : Type} [DecidableEq κ] {key : α → κ}

theorem place_subset (x : α) (xs : List α) : place key x xs ⊆ x :: xs := by
  induction xs with
  | nil => exact List.Subset.refl _
  | cons y rest ih =>
    intro z hz
    rw [place] at hz
    by_cases hy : key y = key x
    · rw [if_pos hy] at hz
      rcases List.mem_cons.mp hz with hz | hz <;> simp [hz]
    · rw [if_neg hy] at hz
      rcases List.mem_cons.mp hz with hz | hz
      · simp [hz]
      · rcases List.mem_cons.mp (ih hz) with hz | hz <;> simp [hz]

theorem foldl_place_subset (f : β → α) (entries : List β) (kept : List α) :
    entries.foldl (fun kept e => place key (f e) kept) kept ⊆ kept ++ entries.map f := by
  induction entries generalizing kept with
  | nil => simp
  | cons e rest ih =>
    intro z hz
    rcases List.mem_append.mp (ih _ hz) with hplaced | hrest
    · rcases List.mem_cons.mp (place_subset _ _ hplaced) with hz | hz <;> simp [hz]
    · simp [List.mem_map.mp hrest]

theorem collect_subset (entries : List α) : collect key entries ⊆ entries := by
  have h : entries.foldl (fun kept e => place key (id e) kept) [] ⊆ [] ++ entries.map id :=
    foldl_place_subset id entries []
  simpa [collect] using h

end Keyed

theorem lookup_or_null (values : List (String × Value)) (key : String) :
    (values.lookup key).getD .null = .null ∨
      (values.lookup key).getD .null ∈ values.map Prod.snd := by
  cases h : values.lookup key with
  | none => exact .inl rfl
  | some v =>
    obtain ⟨before, after, rfl, -⟩ := List.lookup_eq_some_iff.mp h
    simp

/-! ## Look-up -/

variable {P : Value → Prop}

theorem Variable.default_builtIn {v : Variable} (h : v ∈ builtIns) :
    v.absent = .whole 0 ∨ v.absent = .truth true := by
  simp only [builtIns, List.mem_cons, List.not_mem_nil, or_false] at h
  rcases h with rfl | rfl | rfl | rfl | rfl | rfl | rfl | rfl | rfl | rfl | rfl | rfl <;>
    simp [builtIn, absent, Value.isNull]

/-- Whatever holds of zero, of true, of the defaults of a team and of the fact under a name holds of
what is read. -/
theorem Registry.lookup_of {r : Registry} {key : String} {scope : Scope} {fact : String → Value}
    (hzero : P (.whole 0)) (htrue : P (.truth true)) (hcustom : ∀ v ∈ r.custom, P v.defaultValue)
    (hfact : fact key = .null ∨ P (fact key)) : P (r.lookup key scope fact) := by
  unfold Registry.lookup
  cases hv : r.resolve? key scope with
  | none => exact hzero
  | some v =>
    have habsent : P v.absent := by
      rcases Option.or_eq_some_iff.mp hv with h | ⟨-, h⟩
      · rcases Variable.default_builtIn (List.mem_of_find?_eq_some h) with h | h
        · exact h ▸ hzero
        · exact h ▸ htrue
      · have hdefault := hcustom v (List.mem_of_find?_eq_some h)
        unfold Variable.absent
        by_cases hnull : v.defaultValue.isNull = true
        · simpa [hnull] using hzero
        · simpa [hnull] using hdefault
    by_cases hnull : (fact key).isNull = true
    · simpa [hnull] using habsent
    · rcases hfact with h | h
      · simp [h, Value.isNull] at hnull
      · simpa [hnull] using h

theorem Registry.resolve?_ident {r : Registry} {key : String} {scope : Scope} {v : Variable}
    (h : r.resolve? key scope = some v) : v.key = key ∧ v.scope = scope := by
  have hident : v.ident = (key, scope) := by
    rcases Option.or_eq_some_iff.mp h with h | ⟨-, h⟩
    · exact (Keyed.find?_eq_some h).2
    · exact (Keyed.find?_eq_some h).2
  exact ⟨congrArg Prod.fst hident, congrArg Prod.snd hident⟩

theorem Registry.mem_custom {all : List Variable} {v : Variable}
    (h : v ∈ (ofVariables all).custom) :
    v ∈ all ∧ Variable.isBuiltInKey v.key = false ∧ v.isActive = true := by
  have hmem := List.mem_filter.mp (Keyed.collect_subset _ h)
  simpa using hmem

theorem Registry.custom_ofVariables {rows : List VariableRecord} {v : Variable}
    (h : v ∈ (ofVariables (rows.map VariableRecord.variable)).custom) :
    ∃ row ∈ rows, row.variable = v :=
  List.mem_map.mp (mem_custom h).1

/-! ## Facts -/

namespace Form

def FactsForm.noted (f : FactsForm) : List Value :=
  .whole f.goalsFor :: .whole f.goalsAgainst :: f.customValues.map fun (_, m) => m.value

theorem FactsForm.fact_of {f : FactsForm} (h : ∀ v ∈ f.noted, P v) (key : String) :
    f.facts.fact key = .null ∨ P (f.facts.fact key) := by
  unfold MatchFacts.fact
  by_cases hfor : key = "goalsFor"
  · rw [if_pos hfor]
    exact .inr (h _ (by simp [noted, facts]))
  rw [if_neg hfor]
  by_cases hagainst : key = "goalsAgainst"
  · rw [if_pos hagainst]
    exact .inr (h _ (by simp [noted, facts]))
  rw [if_neg hagainst]
  refine (lookup_or_null f.facts.values key).imp_right fun hmem => h _ ?_
  simp only [facts, Measure.values, List.map_map] at hmem
  simp only [noted, List.mem_cons]
  exact .inr (.inr hmem)

def StatForm.noted (f : StatForm) : List Value :=
  (f.tally.facts.map fun (_, n) => Value.whole n) ++ f.customValues.map fun (_, m) => m.value

theorem StatForm.fact_of {f : StatForm} {position : Position} (h : ∀ v ∈ f.noted, P v)
    (hposition : ∀ p, P (.position p)) (htruth : ∀ b, P (.truth b)) (key : String) :
    (f.facts position).fact key = .null ∨ P ((f.facts position).fact key) := by
  unfold PlayerFacts.fact
  by_cases hkey : key = "position"
  · rw [if_pos hkey]
    exact .inr (hposition _)
  rw [if_neg hkey]
  by_cases hplayed : key = "played"
  · rw [if_pos hplayed]
    exact .inr (htruth _)
  rw [if_neg hplayed]
  refine (lookup_or_null (f.facts position).values key).imp_right fun hmem => h _ ?_
  obtain ⟨entry, hentry, hvalue⟩ := List.mem_map.mp hmem
  have hplaced := Keyed.foldl_place_subset (fun x : String × Int => (x.1, Value.whole x.2)) _ _
    hentry
  rw [← hvalue]
  simp only [Measure.values, List.mem_append, List.mem_map] at hplaced
  simp only [noted, List.mem_append, List.mem_map]
  rcases hplaced with ⟨x, hx, rfl⟩ | ⟨x, hx, rfl⟩
  · exact .inr ⟨x, hx, rfl⟩
  · exact .inl ⟨x, hx, rfl⟩

end Form

end ClubPoints
