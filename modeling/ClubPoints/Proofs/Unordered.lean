import ClubPoints.Proofs.Judgeable
import ClubPoints.Proofs.Submission
import ClubPoints.Proofs.Undeclared

/-!
# Variables without an order

Positions and truth values are only ever equal or unequal. But what counts is the value that is
found, not the type that its variable was declared with, and for a truth value of a team a number
may be noted (`Condition.order_of_unordered`).
-/

namespace ClubPoints

open Form Form.Checked

/-! ## Comparing -/

def Operator.isOrder : Operator → Bool
  | .greater | .less | .greaterEqual | .lessEqual => true
  | .equal | .unequal => false

namespace Operator

variable {op : Operator} {actual expected : Value}

theorem compare_of_unordered (hop : op.isOrder = true) (h : actual.isUnordered = true) :
    op.compare actual expected = .ok false := by
  have hnever (same : Bool) : op.holdsOfEquality same = false := by
    cases op with
    | equal => cases hop
    | unequal => cases hop
    | _ => rfl
  unfold compare
  rw [h, Bool.true_or, if_pos rfl, hnever]

theorem compare_eq_false_iff (hactual : actual.isNoted = true)
    (hexpected : expected.isNoted = true) :
    op.compare actual expected = .ok false ↔
      Value.overflow actual expected = false ∧ op.relates actual expected = false := by
  constructor
  · intro h
    exact ⟨(Value.exists_compare_iff hactual hexpected).mp ⟨false, h⟩, (compare_eq_ok h).symm⟩
  · intro h
    obtain ⟨b, hb⟩ := (Value.exists_compare_iff hactual hexpected).mpr h.1
    rw [hb, compare_eq_ok hb, h.2]

end Operator

/-! ## Declared types -/

namespace Form

theorem customType?_ne_text {name : String} {dataType : DataType}
    (h : customType? name = some dataType) : dataType ≠ .text := by
  simpa using (Option.filter_eq_some_iff.mp h).2

theorem VariableForm.dataType_ne_text {form : VariableForm}
    (h : Submitted VariableForm.read form) : form.dataType ≠ .text := by
  obtain ⟨v, h⟩ := h
  obtain ⟨fields, h⟩ := object_eq_valid h
  simp only [app_eq_valid, fmap_eq_valid] at h
  obtain ⟨_, _, ⟨_, dataType, ⟨_, _, ⟨_, _, ⟨_, _, ⟨_, _, ⟨_, -, rfl⟩, -, rfl⟩, -, rfl⟩, -, rfl⟩,
    -, rfl⟩, htype, rfl⟩, -, rfl⟩ := h
  change dataType ≠ .text
  rcases defaulted_eq_valid htype with rfl | ⟨v, hv⟩
  · decide
  · unfold choice at hv
    cases hname : v.text?.bind customType? with
    | none =>
      rw [hname] at hv
      cases hv
    | some found =>
      rw [hname] at hv
      cases hv
      obtain ⟨name, -, hname⟩ := Option.bind_eq_some_iff.mp hname
      exact customType?_ne_text hname

end Form

def VariableRecord.IsDeclared (row : VariableRecord) : Prop :=
  ∃ form, Submitted VariableForm.read form ∧ row.dataType = form.dataType

theorem VariableRecord.IsDeclared.truth_of_ne {row : VariableRecord} (h : row.IsDeclared)
    (hnumber : row.dataType ≠ .number) : row.dataType = .truth := by
  obtain ⟨form, hform, hsame⟩ := h
  cases hd : row.dataType with
  | truth => rfl
  | number => exact absurd hd hnumber
  | text => exact absurd (hsame.symm.trans hd) (VariableForm.dataType_ne_text hform)

theorem Variable.unordered_builtIn : ∀ v ∈ builtIns, v.dataType ≠ .number →
    v.scope = .ofPlayer ∧ (v.key = "position" ∨ v.key = "played") := by
  decide

theorem Variable.isBuiltIn_builtIn : ∀ v ∈ builtIns, v.isBuiltIn = true := by
  decide

theorem VariableRecord.absent_of_truth {row : VariableRecord} (h : row.dataType = .truth) :
    row.variable.absent.isUnordered = true := by
  unfold Variable.absent VariableRecord.variable DataType.default
  rw [if_pos h]
  rfl

/-! ## What is noted -/

namespace Keyed

theorem lookup_unplaced {key : String} {f : Int → Value} {entries : List (String × Int)}
    {values : List (String × Value)} (h : key ∉ entries.map Prod.fst) :
    (entries.foldl (fun values (k, n) => place Prod.fst (k, f n) values) values).lookup key =
      values.lookup key := by
  induction entries generalizing values with
  | nil => rfl
  | cons x rest ih =>
    rw [List.map_cons, List.mem_cons, not_or] at h
    rw [List.foldl_cons, ih h.2, lookup_eq, lookup_eq, find?_place, if_neg (Ne.symm h.1)]

end Keyed

theorem Tally.isBuiltInKey_facts (t : Tally Int) :
    ∀ name ∈ t.facts.map Prod.fst, Variable.isBuiltInKey name = true := by
  have h : ∀ name ∈ Tally.zero.facts.map Prod.fst, Variable.isBuiltInKey name = true := by decide
  exact h

def Measure.isNumber : Measure → Bool
  | .truth _ => false
  | _ => true

theorem Measure.isUnordered_value {m : Measure} (h : m.isNumber = false) :
    m.value.isUnordered = true := by
  cases m with
  | truth b => rfl
  | _ => cases h

namespace Form.FactsForm

/-- What conditions are judged by: the variables that a team has added, and what is noted of a match
and of a player in some position. -/
def situation (f : FactsForm) (own : List VariableRecord) (player : Option (StatForm × Position)) :
    Situation where
  registry := .ofVariables (own.map VariableRecord.variable)
  game := f.facts
  player := player.map fun (stat, position) => stat.facts position

def measure? (f : FactsForm) (player : Option (StatForm × Position)) (scope : Scope)
    (key : String) : Option Measure :=
  match scope with
  | .ofMatch => f.customValues.lookup key
  | .ofPlayer => player.bind fun (stat, _) => stat.customValues.lookup key

variable {f : FactsForm} {own : List VariableRecord} {player : Option (StatForm × Position)}
  {scope : Scope} {fact : String → Value} {key : String} {v : Variable}

theorem fact_of_measure (hfact : (f.situation own player).facts? scope = some fact)
    (hkey : Variable.isBuiltInKey key = false) :
    fact key = ((f.measure? player scope key).map Measure.value).getD .null := by
  have hother (name : String) (hname : Variable.isBuiltInKey name = true) : key ≠ name := by
    intro h
    rw [h, hname] at hkey
    cases hkey
  cases scope with
  | ofMatch =>
    cases hfact
    unfold MatchFacts.fact
    rw [if_neg (hother "goalsFor" (by decide)), if_neg (hother "goalsAgainst" (by decide))]
    exact congrArg (Option.getD · .null) (Measure.lookup_values key f.customValues)
  | ofPlayer =>
    cases player with
    | none => cases hfact
    | some x =>
      obtain ⟨stat, position⟩ := x
      cases hfact
      have hcount : key ∉ stat.tally.facts.map Prod.fst := by
        intro hmem
        exact hother key (Tally.isBuiltInKey_facts stat.tally key hmem) rfl
      unfold PlayerFacts.fact
      rw [if_neg (hother "position" (by decide)), if_neg (hother "played" (by decide))]
      unfold StatForm.facts
      rw [Keyed.lookup_unplaced hcount, Measure.lookup_values]
      rfl

def number? (f : FactsForm) (player : Option (StatForm × Position)) (v : Variable) :
    Option Measure :=
  if v.isBuiltIn then none else (f.measure? player v.scope v.key).filter Measure.isNumber

section
variable (hv : (f.situation own player).registry.resolve? key scope = some v)
  (htype : v.dataType ≠ .number) (hfact : (f.situation own player).facts? scope = some fact)
include hv htype hfact

theorem lookup_of_builtIn (hmem : v ∈ Variable.builtIns) :
    ((f.situation own player).registry.lookup key scope fact).isUnordered = true := by
  obtain ⟨rfl, rfl⟩ := Registry.resolve?_ident hv
  obtain ⟨hplayer, hname⟩ := Variable.unordered_builtIn v hmem htype
  unfold Registry.lookup
  rw [hv]
  dsimp only
  -- the position of a player and whether they took part are noted as what they are
  rw [hplayer] at hfact
  cases player with
  | none => cases hfact
  | some x =>
    cases hfact
    rcases hname with hname | hname <;> rw [hname] <;> rfl

theorem lookup_of_own {row : VariableRecord} (hrow : row.variable = v)
    (hdeclared : row.IsDeclared) (hkey : Variable.isBuiltInKey key = false) :
    match (f.measure? player scope key).filter Measure.isNumber with
    | none => ((f.situation own player).registry.lookup key scope fact).isUnordered = true
    | some m => (f.situation own player).registry.lookup key scope fact = m.value := by
  subst hrow
  have hlookup : (f.situation own player).registry.lookup key scope fact =
      ((f.measure? player scope key).map Measure.value).getD row.variable.absent := by
    unfold Registry.lookup
    rw [hv, fact_of_measure hfact hkey]
    cases f.measure? player scope key with
    | none => rfl
    | some m => cases m <;> rfl
  rw [hlookup]
  cases f.measure? player scope key with
  | none => exact VariableRecord.absent_of_truth (hdeclared.truth_of_ne htype)
  | some m =>
    cases hnumber : m.isNumber with
    | false =>
      rw [Option.filter_some_neg (by simp [hnumber])]
      exact Measure.isUnordered_value hnumber
    | true =>
      rw [Option.filter_some_pos hnumber]
      rfl

theorem lookup_of_number? (hown : ∀ row ∈ own, row.IsDeclared) :
    match f.number? player v with
    | none => ((f.situation own player).registry.lookup key scope fact).isUnordered = true
    | some m => (f.situation own player).registry.lookup key scope fact = m.value := by
  rcases Option.or_eq_some_iff.mp hv with hfound | ⟨-, hfound⟩
  · have hmem := (Keyed.find?_eq_some hfound).1
    rw [number?, if_pos (Variable.isBuiltIn_builtIn v hmem)]
    exact lookup_of_builtIn hv htype hfact hmem
  · have hmem := (Keyed.find?_eq_some hfound).1
    obtain ⟨hkey, hscope⟩ := Registry.resolve?_ident hv
    obtain ⟨-, hnew, -⟩ := Registry.mem_custom hmem
    obtain ⟨row, hrow, hvariable⟩ := Registry.custom_ofVariables hmem
    have hbuiltIn : v.isBuiltIn = false := hvariable ▸ rfl
    rw [hkey] at hnew
    rw [number?, if_neg (by simp [hbuiltIn]), hkey, hscope]
    exact lookup_of_own hv htype hfact hvariable (hown row hrow) hnew

end

theorem situation_noted : (f.situation own player).Reads fun v => v.isNoted = true := by
  refine @reads_of own { f with stats := player.toList.map Prod.fst } (fun v => v.isNoted = true)
    (fun _ => noted_of_allNoted) default_noted rfl (fun _ => rfl) (fun _ => rfl) _ fun p hp => ?_
  obtain ⟨⟨stat, position⟩, hplayer, rfl⟩ := Option.map_eq_some_iff.mp hp
  exact ⟨stat, by simp [hplayer], position, rfl⟩

end Form.FactsForm

/-! ## Conditions with an order -/

namespace Condition

variable {own : List VariableRecord} {facts : FactsForm} {player : Option (StatForm × Position)}
  {v : Variable}

theorem holds_eq_false_iff {c : Condition} (hstored : c.IsStored)
    (hown : ∀ row ∈ own, row.IsDeclared)
    (hv : (facts.situation own player).registry.resolve? c.key c.scope = some v)
    (htype : v.dataType ≠ .number) (hop : c.operator.isOrder = true) :
    c.holds (facts.situation own player) = .ok false ↔
      ∀ m fact, facts.number? player v = some m →
        (facts.situation own player).facts? c.scope = some fact →
        c.resolves (facts.situation own player).registry = true →
        Value.overflow m.value (c.comparand (facts.situation own player).registry fact) = false ∧
          c.operator.relates m.value (c.comparand (facts.situation own player).registry fact) =
            false := by
  rw [holds_eq hstored]
  cases hfact : (facts.situation own player).facts? c.scope with
  | none => simp
  | some fact =>
    have hfound := FactsForm.lookup_of_number? hv htype hfact hown
    cases hresolves : c.resolves (facts.situation own player).registry with
    | false => simp
    | true =>
      cases hnumber : facts.number? player v with
      | none =>
        rw [hnumber] at hfound
        simp [Operator.compare_of_unordered hop hfound]
      | some m =>
        rw [hnumber] at hfound
        have hcomparand : (c.comparand (facts.situation own player).registry fact).isNoted = true :=
          comparand_of (P := fun v => v.isNoted = true) hstored
            (FactsForm.situation_noted c.scope fact hfact) (fun _ => rfl)
            fun x => (Value.literalOfReal_noted x).1
        have hm : m.value.isNoted = true := by cases m <;> rfl
        simpa [hfound] using Operator.compare_eq_false_iff hm hcomparand

/-- A condition that asks for the order of a position or of a truth value is not met, unless a number
is noted in the place of a truth value of the team. Then, if all its names resolve, it is met or
stopped just as that number compares with the other value. -/
theorem order_of_unordered (hown : ∀ row ∈ own, row.IsDeclared)
    (facts : FactsForm) (player : Option (StatForm × Position)) (row : ConditionRecord)
    (hv : (facts.situation own player).registry.resolve? row.key row.scope = some v)
    (htype : v.dataType ≠ .number) (hop : row.operator.isOrder = true) :
    (facts.number? player v = none → row.condition.holds (facts.situation own player) = .ok false) ∧
    (row.condition.holds (facts.situation own player) = .ok false ↔
      ∀ m fact, facts.number? player v = some m →
        (facts.situation own player).facts? row.scope = some fact →
        row.condition.resolves (facts.situation own player).registry = true →
        Value.overflow m.value
            (row.condition.comparand (facts.situation own player).registry fact) = false ∧
          row.operator.relates m.value
            (row.condition.comparand (facts.situation own player).registry fact) = false) := by
  have hiff := holds_eq_false_iff (c := row.condition) ⟨row.value, rfl⟩ hown hv htype hop
  refine ⟨fun hnone => hiff.mpr fun m fact hm => ?_, hiff⟩
  rw [hnone] at hm
  cases hm

end Condition

def captainVariable : VariableRecord where
  teamId := 1
  key := "captain"
  label := "Captain"
  scope := .ofPlayer
  dataType := .truth

def captainForm : VariableForm where
  teamId := 1
  key := "captain"
  label := "Captain"
  description := "Leads the team"
  scope := .ofPlayer
  dataType := .truth
  defaultValue := none

def isLed : ConditionRecord where
  ruleId := 1
  key := "captain"
  operator := .greater
  scope := .ofPlayer

def leading (m : Measure) : StatForm where
  playerId := 1
  customValues := [("captain", m)]

def led (m : Measure) : Situation :=
  FactsForm.situation { stats := [leading m] } [captainVariable] (some (leading m, .forward))

theorem declared_captain : ∀ row ∈ [captainVariable], row.IsDeclared := by
  intro row hrow
  obtain rfl := List.mem_singleton.mp hrow
  -- the default is left out
  exact ⟨captainForm, ⟨.object [
    ("team_id", .whole 1), ("key", .text "captain"), ("label", .text "Captain"),
    ("description", .text "Leads the team"), ("scope", .text "PLAYER"),
    ("data_type", .text "boolean")], rfl⟩, rfl⟩

theorem Condition.order_of_unordered_captain :
    isLed.condition.holds (led (.truth true)) = .ok false :=
  (Condition.order_of_unordered declared_captain { stats := [leading (.truth true)] }
    (some (leading (.truth true), .forward)) isLed (v := captainVariable.variable) (by rfl)
    (by decide) rfl).1 (by decide)

/-- A number that is noted for the captain is greater than zero. -/
theorem Condition.order_of_unordered_not_always :
    ¬ ∀ (own : List VariableRecord) (facts : FactsForm) (player : Option (StatForm × Position))
      (row : ConditionRecord) (v : Variable),
      (∀ row ∈ own, row.IsDeclared) → Submitted FactsForm.read facts →
      (∀ stat position, player = some (stat, position) → stat ∈ facts.stats) →
      (facts.situation own player).registry.resolve? row.key row.scope = some v →
      v.dataType ≠ .number → row.operator.isOrder = true →
      row.condition.holds (facts.situation own player) = .ok false := by
  intro h
  have hread : Submitted FactsForm.read { stats := [leading (.whole 1)] } :=
    ⟨FactsForm.document { stats := [leading (.whole 1)] }, rfl⟩
  have hplayer : ∀ stat position, some (leading (.whole 1), Position.forward) =
      some (stat, position) → stat ∈ [leading (.whole 1)] := by
    intro stat position hsame
    cases hsame
    exact List.mem_singleton.mpr rfl
  have hnot : isLed.condition.holds (led (.whole 1)) = .ok false :=
    h [captainVariable] { stats := [leading (.whole 1)] } (some (leading (.whole 1), .forward))
      isLed captainVariable.variable declared_captain hread hplayer rfl (by decide) rfl
  have hholds : (isLed.condition.holds (led (.whole 1))).toOption = some true := by decide +kernel
  rw [hnot] at hholds
  cases hholds

end ClubPoints
