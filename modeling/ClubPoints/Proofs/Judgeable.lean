import ClubPoints.Document.Reader
import ClubPoints.Proofs.Deserved
import ClubPoints.Proofs.Readings
import ClubPoints.Proofs.Rounding

/-!
# When rules can be judged

Stored rules can be judged by any facts that were noted, but for two numbers: a whole number beyond
the real ones cannot be compared with a number, and infinity is no factor. Either stops the whole
list of rules (`Award.stopped_only_by_overflow`).
-/

namespace ClubPoints

open Form

variable {rule : Rule} {r : Registry} {game : MatchFacts} {players : List PlayerFacts}
  {p : PlayerFacts} {s : Situation} {c : Condition} {cs : List Condition}

/-! ## Values that overflow -/

namespace Value

def isBeyondReals : Value → Bool
  | .whole n => (Binary64.ofInt? n).isNone
  | _ => false

def isInfinite : Value → Bool
  | .real (.infinity _) => true
  | _ => false

def isNoted : Value → Bool
  | .truth _ | .whole _ | .real _ | .position _ => true
  | _ => false

def overflow (actual expected : Value) : Bool :=
  !(actual.isUnordered || expected.isUnordered) && (actual.isBeyondReals || expected.isBeyondReals)

theorem toReal_of_ordered {v : Value} (hnoted : v.isNoted = true) (hordered : v.isUnordered = false) :
    (v.isBeyondReals = false ∧ ∃ x, v.toReal = .ok x) ∨
      (v.isBeyondReals = true ∧ v.toReal = .error .wholeTooLarge) := by
  cases v with
  | whole n =>
    cases hn : Binary64.ofInt? n with
    | none => exact .inr ⟨by rw [isBeyondReals, hn]; rfl, by rw [toReal, hn]; rfl⟩
    | some x => exact .inl ⟨by rw [isBeyondReals, hn]; rfl, x, by rw [toReal, hn]; rfl⟩
  | real x => exact .inl ⟨rfl, x, rfl⟩
  | truth b => simp [isUnordered] at hordered
  | position p => simp [isUnordered] at hordered
  | _ => simp [isNoted] at hnoted

theorem exists_compare_iff {op : Operator} {actual expected : Value}
    (hactual : actual.isNoted = true) (hexpected : expected.isNoted = true) :
    (∃ b, op.compare actual expected = .ok b) ↔ overflow actual expected = false := by
  unfold Operator.compare overflow
  by_cases hordered : (actual.isUnordered || expected.isUnordered) = true
  · simp [hordered]
  · rw [if_neg hordered]
    rw [Bool.not_eq_true] at hordered
    obtain ⟨hx, hy⟩ := Bool.or_eq_false_iff.mp hordered
    rcases toReal_of_ordered hactual hx with ⟨hnear, x, hreal⟩ | ⟨hfar, hreal⟩
    · rcases toReal_of_ordered hexpected hy with ⟨hnear', y, hreal'⟩ | ⟨hfar', hreal'⟩
      · simp [operand?, hordered, hnear, hnear', hreal, hreal', bind, Except.bind, pure, Except.pure]
      · simp [operand?, hordered, hnear, hfar', hreal, hreal', bind, Except.bind]
    · simp [operand?, hordered, hfar, hreal, bind, Except.bind]

theorem exists_factor_iff {v : Value} :
    (∃ n, v.factor = .ok n) ↔ v.isInfinite = false := by
  cases v with
  | real x => cases x <;> simp [factor, toWhole, Binary64.truncate?, isInfinite]
  | text t =>
    simp only [factor, toWhole, wholeOfText, isInfinite]
    rcases Numeral.whole t with fault | n
    · cases fault <;> simp
    · simp
  | _ => simp [factor, toWhole, isInfinite]

theorem literalOfReal_noted (x : Binary64) :
    (literalOfReal x).isNoted = true ∧ (literalOfReal x).isBeyondReals = false ∧
      (literalOfReal x).isUnordered = false := by
  unfold literalOfReal
  by_cases hx : x.isIntegral = true
  · obtain ⟨n, hn⟩ := Binary64.exists_truncate? hx
    have hnear : (Binary64.ofInt? n).isSome = true := Binary64.ofInt?_truncate hx hn
    rw [if_pos hx, hn]
    exact ⟨rfl, by simpa [isBeyondReals] using hnear, rfl⟩
  · rw [if_neg hx]
    exact ⟨rfl, rfl, rfl⟩

end Value

def Situation.Reads (s : Situation) (P : Value → Prop) : Prop :=
  ∀ scope fact, s.facts? scope = some fact → ∀ key, P (s.registry.lookup key scope fact)

/-! ## Conditions that overflow -/

namespace Condition

def overflows (c : Condition) (s : Situation) : Bool :=
  (s.facts? c.scope).any fun fact => c.resolves s.registry &&
    Value.overflow (s.registry.lookup c.key c.scope fact) (c.comparand s.registry fact)

/-- Judging conditions one after another comes to one that overflows: all before it are met. -/
def Overflow (s : Situation) (cs : List Condition) : Prop :=
  ∃ before c after, cs = before ++ c :: after ∧ (∀ b ∈ before, b.isMetIn s = true) ∧
    c.overflows s = true

theorem not_overflow_nil : ¬ Overflow s [] := by
  rintro ⟨before, c, after, h, -⟩
  simp at h

theorem overflow_cons :
    Overflow s (c :: cs) ↔ c.overflows s = true ∨ (c.isMetIn s = true ∧ Overflow s cs) := by
  constructor
  · rintro ⟨before, d, after, h, hmet, hover⟩
    cases before with
    | nil =>
      obtain ⟨rfl, -⟩ := List.cons.inj h
      exact .inl hover
    | cons b before =>
      obtain ⟨rfl, hrest⟩ := List.cons.inj h
      obtain ⟨hc, hbefore⟩ := List.forall_mem_cons.mp hmet
      exact .inr ⟨hc, before, d, after, hrest, hbefore, hover⟩
  · rintro (hover | ⟨hc, before, d, after, rfl, hmet, hover⟩)
    · exact ⟨[], c, cs, rfl, nofun, hover⟩
    · exact ⟨c :: before, d, after, rfl, List.forall_mem_cons.mpr ⟨hc, hmet⟩, hover⟩

theorem exists_decode {x : Binary64} : ∃ p, Position.decode (Value.literalOfReal x) = .ok p := by
  obtain ⟨hnoted, hnear, hordered⟩ := Value.literalOfReal_noted x
  rcases Value.toReal_of_ordered hnoted hordered with ⟨-, y, hy⟩ | ⟨hfar, -⟩
  · unfold Position.decode
    rw [hy]
    by_cases htruth : (Value.literalOfReal x).isTruth = true
    · exact ⟨_, if_pos htruth⟩
    · by_cases hy : y.isIntegral = true <;> simp [htruth, hy]
  · rw [hnear] at hfar
    cases hfar

theorem comparand_of {P : Value → Prop} {fact : String → Value} (hstored : c.IsStored)
    (hlookup : ∀ key, P (r.lookup key c.scope fact)) (hposition : ∀ p, P (.position p))
    (hliteral : ∀ x, P (Value.literalOfReal x)) : P (c.comparand r fact) := by
  obtain ⟨x, hx⟩ := hstored
  unfold comparand
  cases c.other? with
  | some key => exact hlookup key
  | none =>
    by_cases hkey : c.key = "position"
    · simpa [hkey] using hposition _
    · simpa [hkey, hx] using hliteral x

theorem exists_operands? {fact : String → Value} (hstored : c.IsStored)
    (hfact : s.facts? c.scope = some fact) (hresolves : c.resolves s.registry = true) :
    c.operands? s =
      .ok (some (s.registry.lookup c.key c.scope fact, c.comparand s.registry fact)) := by
  have hexpected : c.expected s.registry fact = .ok (c.comparand s.registry fact) := by
    obtain ⟨x, hx⟩ := hstored
    unfold expected comparand
    cases c.other? with
    | some key => rfl
    | none =>
      obtain ⟨p, hp⟩ := exists_decode (x := x)
      rw [hx, hp]
      by_cases hkey : c.key = "position" <;> simp [hkey, Except.map, Except.toOption]
  simp [operands?, hfact, hresolves, hexpected, bind, Except.bind, pure, Except.pure]

theorem holds_eq (hstored : c.IsStored) :
    c.holds s =
      match s.facts? c.scope with
      | none => .ok false
      | some fact =>
        if c.resolves s.registry then
          c.operator.compare (s.registry.lookup c.key c.scope fact) (c.comparand s.registry fact)
        else .ok false := by
  unfold holds
  cases hfact : s.facts? c.scope with
  | none => simp [operands?, hfact, bind, Except.bind, pure, Except.pure]
  | some fact =>
    cases hresolves : c.resolves s.registry with
    | false => simp [operands?, hfact, hresolves, bind, Except.bind, pure, Except.pure]
    | true =>
      rw [exists_operands? hstored hfact hresolves]
      rfl

theorem not_overflow (hstored : ∀ c ∈ cs, c.IsStored)
    (hnear : s.Reads fun v => v.isBeyondReals = false) : ¬ Overflow s cs := by
  rintro ⟨before, c, after, rfl, -, hover⟩
  obtain ⟨fact, hfact, hover⟩ := (Option.any_eq_true ..).mp hover
  have hcomparand : (c.comparand s.registry fact).isBeyondReals = false :=
    comparand_of (P := fun v => v.isBeyondReals = false) (hstored c (by simp)) (hnear _ _ hfact)
      (fun _ => rfl) fun x => (Value.literalOfReal_noted x).2.1
  simp [Value.overflow, hnear _ _ hfact, hcomparand] at hover

theorem exists_holds_iff (hstored : c.IsStored) (hnoted : s.Reads fun v => v.isNoted = true) :
    (∃ b, c.holds s = .ok b) ↔ c.overflows s = false := by
  rw [holds_eq hstored]
  unfold overflows
  cases hfact : s.facts? c.scope with
  | none => simp
  | some fact =>
    cases hresolves : c.resolves s.registry with
    | false => simp
    | true =>
      have hcomparand : (c.comparand s.registry fact).isNoted = true :=
        comparand_of (P := fun v => v.isNoted = true) hstored (hnoted _ _ hfact) (fun _ => rfl)
          fun x => (Value.literalOfReal_noted x).1
      rw [Option.any_some, Bool.true_and]
      exact Value.exists_compare_iff (hnoted _ _ hfact _) hcomparand

theorem exists_allHold_iff (hstored : ∀ c ∈ cs, c.IsStored) (hnoted : s.Reads fun v => v.isNoted = true) :
    (∃ b, allHold s cs = .ok b) ↔ ¬ Overflow s cs := by
  induction cs with
  | nil => exact ⟨fun _ => not_overflow_nil, fun _ => ⟨true, rfl⟩⟩
  | cons c rest ih =>
    obtain ⟨hc, hrest⟩ := List.forall_mem_cons.mp hstored
    have hholds := exists_holds_iff hc hnoted
    rw [overflow_cons]
    by_cases hover : c.overflows s = true
    · simp only [hover, true_or, not_true_eq_false, iff_false]
      rintro ⟨b, h⟩
      obtain ⟨first, hfirst, -⟩ := bind_eq_ok.mp h
      exact absurd (hholds.mp ⟨first, hfirst⟩) (by simp [hover])
    · obtain ⟨first, hfirst⟩ := hholds.mpr (by simpa using hover)
      rw [allHold, hfirst, ← holds_eq_ok hfirst]
      cases first with
      | false => simp [hover, bind, Except.bind, pure, Except.pure]
      | true => simpa [hover, bind, Except.bind] using ih hrest

end Condition

/-! ## Rules that are stopped -/

def Pricing.isInfinite (pricing : Pricing) (r : Registry) (game : MatchFacts) (p : PlayerFacts) :
    Bool :=
  match pricing with
  | .flat => false
  | .multiplied key scope => (r.lookup key scope (scope.facts game p)).isInfinite

/-- Judging the rule overflows: in its conditions, or in the factor for a player who has earned its
points. -/
def Rule.Overflows (rule : Rule) (r : Registry) (game : MatchFacts) (players : List PlayerFacts) :
    Prop :=
  match rule.kind with
  | .result => Condition.Overflow { registry := r, game, player := none } rule.conditions
  | .performance pricing => ∃ p ∈ players, rule.target.Means p ∧
      (Condition.Overflow { registry := r, game, player := some p } rule.conditions ∨
        (rule.isEarned r game p = true ∧ pricing.isInfinite r game p = true))
  | .manual | .unclassified => False

theorem exists_price_iff {pricing : Pricing} {points : Int} :
    (∃ n, pricing.price points { registry := r, game, player := some p } = .ok n) ↔
      pricing.isInfinite r game p = false := by
  cases pricing with
  | flat => simp [Pricing.price, Pricing.isInfinite]
  | multiplied key scope =>
    rw [Pricing.isInfinite, ← Value.exists_factor_iff, Pricing.price, Situation.facts?_player]
    simp only [map_eq_ok]
    constructor
    · rintro ⟨_, n, hn, -⟩
      exact ⟨n, hn⟩
    · rintro ⟨n, hn⟩
      exact ⟨_, n, hn, rfl⟩

namespace Rule

theorem exists_reason (h : Condition.allHold s rule.conditions = .ok true) :
    ∃ reason, rule.reason s = .ok reason := by
  obtain ⟨texts, htexts⟩ := Condition.exists_describe h
  simp only [Rule.reason, htexts, bind, Except.bind]
  split <;> exact ⟨_, rfl⟩

theorem exists_resultAwards_iff :
    (∃ awards, rule.resultAwards r game players = .ok awards) ↔
      ∃ b, Condition.allHold { registry := r, game, player := none } rule.conditions = .ok b := by
  simp only [resultAwards, bind_eq_ok]
  constructor
  · rintro ⟨_, b, hb, -⟩
    exact ⟨b, hb⟩
  · rintro ⟨b, hb⟩
    cases b with
    | false => exact ⟨[], false, hb, rfl⟩
    | true =>
      obtain ⟨reason, hreason⟩ := exists_reason hb
      exact ⟨_, true, hb, by simp only [↓reduceIte, hreason, bind, Except.bind]; rfl⟩

theorem exists_playerAward?_iff {pricing : Pricing} (hkind : rule.kind = .performance pricing) :
    (∃ o, rule.playerAward? pricing r game p = .ok o) ↔
      (∃ b, Condition.allHold { registry := r, game, player := some p } rule.conditions = .ok b) ∧
        (rule.isEarned r game p = true → pricing.isInfinite r game p = false) := by
  simp only [playerAward?, bind_eq_ok]
  constructor
  · rintro ⟨o, b, hb, h⟩
    refine ⟨⟨b, hb⟩, fun hearn => ?_⟩
    rw [isEarned_of_allHold hkind hb] at hearn
    rw [hearn, if_pos rfl] at h
    obtain ⟨n, hn, -⟩ := bind_eq_ok.mp h
    exact exists_price_iff.mp ⟨n, hn⟩
  · rintro ⟨⟨b, hb⟩, hfinite⟩
    rw [isEarned_of_allHold hkind hb] at hfinite
    cases b with
    | false => exact ⟨none, false, hb, rfl⟩
    | true =>
      obtain ⟨n, hn⟩ : ∃ n, pricing.price rule.points ⟨r, game, some p⟩ = .ok n :=
        exists_price_iff.mpr (hfinite rfl)
      obtain ⟨reason, hreason⟩ := exists_reason hb
      exact ⟨_, true, hb, by simp only [↓reduceIte, hn, hreason, bind, Except.bind]; rfl⟩

theorem exists_performanceAwards_iff {pricing : Pricing} :
    (∃ awards, rule.performanceAwards pricing r game players = .ok awards) ↔
      ∀ p ∈ players, rule.target.Means p → ∃ o, rule.playerAward? pricing r game p = .ok o := by
  have hmapped : (∃ awards, rule.performanceAwards pricing r game players = .ok awards) ↔
      ∃ found, (rule.target.select players).mapM (rule.playerAward? pricing r game) =
        .ok found := by
    simp only [performanceAwards, bind_eq_ok, pure_eq_ok]
    constructor
    · rintro ⟨_, found, hfound, -⟩
      exact ⟨found, hfound⟩
    · rintro ⟨found, hfound⟩
      exact ⟨_, found, hfound, rfl⟩
  rw [hmapped, exists_mapM_iff]
  simp only [Target.select, List.mem_filter, Target.covers_eq, decide_eq_true_eq, and_imp]

theorem not_overflows (hstored : ∀ c ∈ rule.conditions, c.IsStored)
    (hmatch : Situation.Reads ⟨r, game, none⟩ fun v => v.isBeyondReals = false)
    (hplayers : ∀ p ∈ players, Situation.Reads ⟨r, game, some p⟩ fun v =>
      v.isBeyondReals = false ∧ v.isInfinite = false) : ¬ rule.Overflows r game players := by
  unfold Rule.Overflows
  cases rule.kind with
  | result => exact Condition.not_overflow hstored hmatch
  | performance pricing =>
    rintro ⟨p, hp, -, hover | ⟨-, hinfinite⟩⟩
    · exact Condition.not_overflow hstored
        (fun scope fact hfact key => (hplayers p hp scope fact hfact key).1) hover
    · cases pricing with
      | flat => cases hinfinite
      | multiplied key scope =>
        have hread := (hplayers p hp _ _ (Situation.facts?_player scope) key).2
        rw [Pricing.isInfinite, hread] at hinfinite
        cases hinfinite
  | _ => simp

theorem exists_awards_iff (hkind : rule.kind ≠ .unclassified)
    (hstored : ∀ c ∈ rule.conditions, c.IsStored)
    (hmatch : Situation.Reads ⟨r, game, none⟩ fun v => v.isNoted = true)
    (hplayers : ∀ p ∈ players, Situation.Reads ⟨r, game, some p⟩ fun v => v.isNoted = true) :
    (∃ awards, rule.awards r game players = .ok awards) ↔ ¬ rule.Overflows r game players := by
  unfold Rule.awards Rule.Overflows
  cases hk : rule.kind with
  | result => exact exists_resultAwards_iff.trans (Condition.exists_allHold_iff hstored hmatch)
  | performance pricing =>
    simp only [exists_performanceAwards_iff, not_exists, not_and, not_or, Bool.not_eq_true]
    refine forall₂_congr fun p hp => imp_congr_right fun _ => ?_
    rw [exists_playerAward?_iff hk, Condition.exists_allHold_iff hstored (hplayers p hp)]
  | manual => simp
  | unclassified => exact absurd hk hkind

end Rule

/-! ## Noted facts -/

section
variable {own : List VariableRecord} {form : FactsForm} {P : Value → Prop}

def Form.FactsForm.allNoted (f : FactsForm) : List Value := f.noted ++ f.stats.flatMap StatForm.noted

theorem reads_of (hnoted : ∀ v ∈ form.allNoted, P v)
    (hdefault : ∀ row ∈ own, P row.variable.defaultValue) (hzero : P (.whole 0))
    (htruth : ∀ b, P (.truth b)) (hposition : ∀ p, P (.position p))
    {player : Option PlayerFacts}
    (hplayer : ∀ p, player = some p → ∃ stat ∈ form.stats, ∃ position, stat.facts position = p) :
    Situation.Reads ⟨.ofVariables (own.map VariableRecord.variable), form.facts, player⟩ P := by
  intro scope fact hfact key
  refine Registry.lookup_of hzero (htruth true) (fun v hv => ?_) ?_
  · obtain ⟨row, hrow, rfl⟩ := Registry.custom_ofVariables hv
    exact hdefault row hrow
  · cases scope with
    | ofMatch =>
      cases hfact
      exact FactsForm.fact_of (fun v hv => hnoted v (List.mem_append_left _ hv)) key
    | ofPlayer =>
      obtain ⟨p, hp, rfl⟩ := Option.map_eq_some_iff.mp hfact
      obtain ⟨stat, hstat, position, rfl⟩ := hplayer p hp
      refine StatForm.fact_of (fun v hv => hnoted v ?_) hposition htruth key
      exact List.mem_append_right _ (List.mem_flatMap.mpr ⟨stat, hstat, hv⟩)

theorem noted_of_allNoted {v : Value} (h : v ∈ form.allNoted) : v.isNoted = true := by
  simp only [FactsForm.allNoted, FactsForm.noted, StatForm.noted, List.mem_append, List.mem_cons,
    List.mem_flatMap, List.mem_map] at h
  have hmeasure (m : Measure) : m.value.isNoted = true := by cases m <;> rfl
  rcases h with (rfl | rfl | ⟨x, -, rfl⟩) | ⟨stat, -, ⟨x, -, rfl⟩ | ⟨x, -, rfl⟩⟩ <;>
    first | rfl | exact hmeasure _

theorem default_noted : ∀ row ∈ own, row.variable.defaultValue.isNoted = true := by
  intro row _
  simp only [VariableRecord.variable, DataType.default]
  by_cases h : row.dataType = .truth <;> simp [h, Value.isNoted]

theorem default_finite (h : ∀ row ∈ own, (Value.real row.defaultValue).isInfinite = false) :
    ∀ row ∈ own, row.variable.defaultValue.isBeyondReals = false ∧
      row.variable.defaultValue.isInfinite = false := by
  intro row hrow
  simp only [VariableRecord.variable, DataType.default]
  by_cases htruth : row.dataType = .truth
  · simp [htruth, Value.isBeyondReals, Value.isInfinite]
  · simp [htruth, Value.isBeyondReals, h row hrow]

def Form.FactsForm.ofText? (text : List Document.Symbol) : Option FactsForm :=
  (Document.read text).toOption.bind fun doc => (FactsForm.read .document doc).toOption

/-- Stored rules are judged by submitted facts just if no active rule overflows. None does as long as
no whole number that was noted is beyond the real ones and none that was noted or is a default is
infinite. -/
theorem Award.stopped_only_by_overflow {rules : List Rule}
    (hrules : ∀ rule ∈ rules, ∃ row conditions, RuleRecord.rule row conditions = .ok rule) :
    ∀ text form, FactsForm.ofText? text = some form →
      (∀ p ∈ players, ∃ stat ∈ form.stats, ∃ position, stat.facts position = p) →
      ((∃ awards, Award.all rules (.ofVariables (own.map VariableRecord.variable)) form.facts players =
          .ok awards) ↔
        ∀ rule ∈ rules, rule.isActive = true →
          ¬ rule.Overflows (.ofVariables (own.map VariableRecord.variable)) form.facts players) ∧
      ((∀ v ∈ form.allNoted, v.isBeyondReals = false ∧ v.isInfinite = false) →
        (∀ row ∈ own, (Value.real row.defaultValue).isInfinite = false) →
        ∃ awards, Award.all rules (.ofVariables (own.map VariableRecord.variable)) form.facts
          players = .ok awards) := by
  -- that a text submits the form keeps its numbers short enough to be written down again
  intro text form _ hplayers
  have hplayer : ∀ p ∈ players, ∀ q, some p = some q → ∃ stat ∈ form.stats, ∃ position,
      stat.facts position = q := fun p hp q hq => Option.some.inj hq ▸ hplayers p hp
  have hiff : (∃ awards, Award.all rules (.ofVariables (own.map VariableRecord.variable)) form.facts
      players = .ok awards) ↔ ∀ rule ∈ rules, rule.isActive = true →
        ¬ rule.Overflows (.ofVariables (own.map VariableRecord.variable)) form.facts players := by
    rw [Award.exists_all_iff]
    refine forall₂_congr fun rule hrule => imp_congr_right fun _ => ?_
    obtain ⟨row, conditions, hrow⟩ := hrules rule hrule
    obtain ⟨hkind, hstored⟩ := RuleRecord.rule_eq_ok hrow
    exact Rule.exists_awards_iff hkind hstored
      (reads_of (fun v => noted_of_allNoted) default_noted rfl (fun _ => rfl) (fun _ => rfl) nofun)
      fun p hp => reads_of (fun v => noted_of_allNoted) default_noted rfl (fun _ => rfl)
        (fun _ => rfl) (hplayer p hp)
  refine ⟨hiff, fun hnoted hfinite => hiff.mpr fun rule hrule _ => ?_⟩
  obtain ⟨row, conditions, hrow⟩ := hrules rule hrule
  have hzero : (Value.whole 0).isBeyondReals = false := by decide +kernel
  exact Rule.not_overflows (RuleRecord.rule_eq_ok hrow).2
    (reads_of (fun v hv => (hnoted v hv).1) (fun row hrow => (default_finite hfinite row hrow).1)
      hzero (fun _ => rfl) (fun _ => rfl) nofun)
    fun p hp => reads_of hnoted (default_finite hfinite) ⟨hzero, rfl⟩ (fun _ => ⟨rfl, rfl⟩)
      (fun _ => ⟨rfl, rfl⟩) (hplayer p hp)

end

def playerAndBonus : List Rule := [
  { id := 1, name := "Player", points := 3, kind := .performance .flat },
  { id := 2, name := "Bonus", points := 2, kind := .performance (.multiplied "bonus" .ofPlayer) }]

def bonusVariable : VariableRecord where
  teamId := 1
  key := "bonus"
  label := "Bonus"
  scope := .ofPlayer

theorem stored_playerAndBonus : ∀ rule ∈ playerAndBonus, ∃ row conditions,
    RuleRecord.rule row conditions = .ok rule := by
  simp only [playerAndBonus, List.forall_mem_cons, List.not_mem_nil, false_implies, implies_true,
    and_true]
  exact ⟨⟨{ id := 1, teamId := 1, name := "Player", description := "", category := .performance,
            points := 3 }, [], rfl⟩,
    ⟨{ id := 2, teamId := 1, name := "Bonus", description := "", category := .performance,
       points := 2, isMultiplier := true, multiplier := some "bonus" }, [], rfl⟩⟩

def bonusForm (m : Measure) : FactsForm where
  stats := [{ playerId := 7, customValues := [("bonus", m)] }]

def bonusText (number : String) : List Document.Symbol :=
  ("\x7b\"player_stats\": [\x7b\"player_id\": 7, \"custom_values\": \x7b\"bonus\": " ++
    number ++ "\x7d\x7d]\x7d").toList.map some

def bonusPlayers (m : Measure) : List PlayerFacts :=
  (bonusForm m).stats.map fun stat => stat.facts .forward

theorem facts_bonusPlayers (m : Measure) : ∀ p ∈ bonusPlayers m,
    ∃ stat ∈ (bonusForm m).stats, ∃ position, stat.facts position = p := by
  intro p hp
  obtain ⟨stat, hstat, rfl⟩ := List.mem_map.mp hp
  exact ⟨stat, hstat, .forward, rfl⟩

theorem Award.stopped_only_by_overflow_bonus :
    FactsForm.ofText? (bonusText "4") = some (bonusForm (.whole 4)) ∧
      ∃ awards, Award.all playerAndBonus (.ofVariables ([bonusVariable].map VariableRecord.variable))
        (bonusForm (.whole 4)).facts (bonusPlayers (.whole 4)) = .ok awards := by
  have hread : FactsForm.ofText? (bonusText "4") = some (bonusForm (.whole 4)) := by decide +kernel
  exact ⟨hread, (Award.stopped_only_by_overflow stored_playerAndBonus _ _ hread
    (facts_bonusPlayers _)).2 (by decide +kernel) (by decide +kernel)⟩

/-- An infinite bonus stops the rules, and the points for playing with them. -/
theorem Award.stopped_only_by_overflow_not_always :
    ¬ ∀ (rules : List Rule) (own : List VariableRecord) (text : List Document.Symbol)
      (form : FactsForm) (players : List PlayerFacts),
      (∀ rule ∈ rules, ∃ row conditions, RuleRecord.rule row conditions = .ok rule) →
      FactsForm.ofText? text = some form →
      (∀ p ∈ players, ∃ stat ∈ form.stats, ∃ position, stat.facts position = p) →
      ∃ awards, Award.all rules (.ofVariables (own.map VariableRecord.variable)) form.facts players =
        .ok awards := by
  intro h
  have hread : FactsForm.ofText? (bonusText "Infinity") =
      some (bonusForm (.real (.infinity false))) := by decide +kernel
  obtain ⟨awards, hawards⟩ := h playerAndBonus [bonusVariable] _ _
    (bonusPlayers (.real (.infinity false))) stored_playerAndBonus hread (facts_bonusPlayers _)
  have hstopped : (Award.all playerAndBonus
      (.ofVariables ([bonusVariable].map VariableRecord.variable))
      (bonusForm (.real (.infinity false))).facts
      (bonusPlayers (.real (.infinity false)))).toOption = none := by decide +kernel
  rw [hawards] at hstopped
  cases hstopped

end ClubPoints
