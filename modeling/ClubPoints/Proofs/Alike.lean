import ClubPoints.Proofs.Ledger

/-!
# What judging looks at

Rules look at a match and its players through the variables that they name, and through nothing
else (`Award.all_alike`, `Ledger.assemble_alike`).
-/

namespace ClubPoints

variable {P : String → Prop} {s s' : Situation}

/-! ## Reading -/

/-- What is read under a name: nothing at all without facts of the scope, and no value if the name
does not resolve. -/
def Situation.read? (s : Situation) (key : String) (scope : Scope) : Option (Option Value) :=
  (s.facts? scope).map fun fact =>
    (s.registry.resolve? key scope).map fun _ => s.registry.lookup key scope fact

def Situation.Agree (P : String → Prop) (s s' : Situation) : Prop :=
  ∀ key scope, P key → s.read? key scope = s'.read? key scope

/-! ## Conditions -/

namespace Condition

variable {c : Condition}

def NamesOnly (P : String → Prop) (c : Condition) : Prop :=
  P c.key ∧ ∀ other ∈ c.other?, P other

def literal (c : Condition) : Except Fault Value :=
  if c.key = "position" then (Position.decode c.value).map .position else .ok c.value

theorem operands?_eq (c : Condition) (s : Situation) :
    c.operands? s =
      match s.read? c.key c.scope with
      | some (some actual) =>
        match c.other? with
        | some other =>
          match s.read? other c.scope with
          | some (some expected) => .ok (some (actual, expected))
          | _ => .ok none
        | none => c.literal.map fun expected => some (actual, expected)
      | _ => .ok none := by
  unfold operands? resolves expected Situation.read? literal
  cases s.facts? c.scope with
  | none => rfl
  | some fact =>
    cases hkey : s.registry.resolve? c.key c.scope with
    | none => simp
    | some v =>
      cases c.other? with
      | none =>
        by_cases hposition : c.key = "position"
        · simp [hposition]
          cases Position.decode c.value <;> rfl
        · simp [hposition]
          rfl
      | some other => cases hother : s.registry.resolve? other c.scope <;> simp [hother]

theorem operands?_congr (hc : c.NamesOnly P) (h : s.Agree P s') :
    c.operands? s = c.operands? s' := by
  rw [operands?_eq, operands?_eq, h c.key c.scope hc.1]
  cases hother : c.other? with
  | none => rfl
  | some other => simp only [h other c.scope (hc.2 other hother)]

theorem holds_congr (hc : c.NamesOnly P) (h : s.Agree P s') : c.holds s = c.holds s' := by
  unfold holds
  rw [operands?_congr hc h]

theorem describe_congr (hc : c.NamesOnly P) (h : s.Agree P s') : c.describe s = c.describe s' := by
  unfold describe
  rw [operands?_congr hc h]

theorem allHold_congr {cs : List Condition} (hcs : ∀ c ∈ cs, c.NamesOnly P) (h : s.Agree P s') :
    allHold s cs = allHold s' cs := by
  induction cs with
  | nil => rfl
  | cons c rest ih =>
    obtain ⟨hc, hrest⟩ := List.forall_mem_cons.mp hcs
    rw [allHold, allHold, holds_congr hc h, ih hrest]

end Condition

/-! ## Rules -/

theorem Pricing.price_eq (key : String) (scope : Scope) (points : Int) (s : Situation) :
    (Pricing.multiplied key scope).price points s =
      match s.read? key scope with
      | none => .ok 0
      | some v => (v.getD (.whole 0)).factor.map (points * ·) := by
  rw [price, Situation.read?]
  cases s.facts? scope with
  | none => rfl
  | some fact =>
    cases hkey : s.registry.resolve? key scope with
    | none => simp [Registry.lookup, hkey]
    | some v => simp

namespace Rule

variable {rule : Rule}

structure NamesOnly (P : String → Prop) (rule : Rule) : Prop where
  conditions : ∀ c ∈ rule.conditions, c.NamesOnly P
  multiplier : ∀ key scope, rule.kind = .performance (.multiplied key scope) → P key

theorem namesOnly_true (rule : Rule) : rule.NamesOnly fun _ => True := by
  constructor
  · intro c _
    simp [Condition.NamesOnly]
  · simp

theorem reason_congr (hrule : rule.NamesOnly P) (h : s.Agree P s') :
    rule.reason s = rule.reason s' := by
  unfold Rule.reason
  rw [mapM_congr fun c hc => Condition.describe_congr (hrule.conditions c hc) h]

theorem price_congr {pricing : Pricing} (hrule : rule.NamesOnly P)
    (hkind : rule.kind = .performance pricing) (h : s.Agree P s') :
    pricing.price rule.points s = pricing.price rule.points s' := by
  cases pricing with
  | flat => rfl
  | multiplied key scope =>
    rw [Pricing.price_eq, Pricing.price_eq, h key scope (hrule.multiplier key scope hkind)]

end Rule

/-! ## Matches -/

/-- Two matches with as many players, each match with its own variables, that read the same under
some names. -/
structure Alike (P : String → Prop) (r r' : Registry) (game game' : MatchFacts)
    (players players' : List PlayerFacts) : Prop where
  game_agrees : Situation.Agree P { registry := r, game, player := none }
    { registry := r', game := game', player := none }
  players_agree : List.Forall₂ (fun p p' => p'.playerId = p.playerId ∧ p'.position = p.position ∧
    Situation.Agree P { registry := r, game, player := some p }
      { registry := r', game := game', player := some p' }) players players'

variable {r r' : Registry} {game game' : MatchFacts} {players players' : List PlayerFacts}
  {rule : Rule} {rules : List Rule}

theorem Registry.lookup_congr {key : String} {scope : Scope} {fact fact' : String → Value}
    (h : (r.resolve? key scope).isSome = true → fact key = fact' key) :
    r.lookup key scope fact = r.lookup key scope fact' := by
  unfold lookup
  cases hkey : r.resolve? key scope with
  | none => rfl
  | some v => rw [h (by simp [hkey])]

/-- Facts matter only where a variable stands for them. -/
theorem Alike.of_facts
    (hgame : ∀ key, (r.resolve? key .ofMatch).isSome = true → game.fact key = game'.fact key)
    (hplayers : List.Forall₂ (fun p p' => p'.playerId = p.playerId ∧ p'.position = p.position ∧
      ∀ key, (r.resolve? key .ofPlayer).isSome = true → p.fact key = p'.fact key)
      players players') :
    Alike P r r game game' players players' := by
  have hread (p p' : Option PlayerFacts) (key : String) :
      Situation.read? { registry := r, game, player := p } key .ofMatch =
        Situation.read? { registry := r, game := game', player := p' } key .ofMatch := by
    simp only [Situation.read?, Situation.facts?, Option.map_some]
    rw [Registry.lookup_congr (hgame key)]
  constructor
  · intro key scope _
    cases scope with
    | ofMatch => exact hread none none key
    | ofPlayer => rfl
  · apply hplayers.imp
    intro p p' hp
    obtain ⟨hid, hposition, hfact⟩ := hp
    refine ⟨hid, hposition, ?_⟩
    intro key scope _
    cases scope with
    | ofMatch => exact hread (some p) (some p') key
    | ofPlayer =>
      simp only [Situation.read?, Situation.facts?, Option.map_some]
      rw [Registry.lookup_congr (hfact key)]

/-- Variables matter only where a name stands for one of them. -/
theorem Alike.of_variables
    (h : ∀ key scope, P key → r'.resolve? key scope = r.resolve? key scope) :
    Alike P r r' game game players players := by
  have hagree (p : Option PlayerFacts) : Situation.Agree P { registry := r, game, player := p }
      { registry := r', game, player := p } := by
    intro key scope hkey
    unfold Situation.read? Registry.lookup
    dsimp only
    rw [h key scope hkey]
    rfl
  refine ⟨hagree none, ?_⟩
  rw [List.forall₂_same]
  intro p _
  exact ⟨rfl, rfl, hagree (some p)⟩

theorem Alike.select (h : Alike P r r' game game' players players') (t : Target) :
    Alike P r r' game game' (t.select players) (t.select players') := by
  refine ⟨h.game_agrees, List.rel_filter ?_ h.players_agree⟩
  intro p p' hp
  obtain ⟨hid, hposition, -⟩ := hp
  dsimp only [Target.covers]
  rw [hid, hposition]

namespace Rule

variable (hrule : rule.NamesOnly P) (h : Alike P r r' game game' players players')
include hrule h

theorem resultAwards_alike :
    rule.resultAwards r' game' players' = rule.resultAwards r game players := by
  have haward (points : Int) (reason : String) :
      (rule.target.select players').map (fun p => rule.award p points reason) =
        (rule.target.select players).map fun p => rule.award p points reason := by
    apply map_eq_of_forall₂ (h.select rule.target).players_agree
    intro p p' hp
    rw [award, award, hp.1]
  unfold resultAwards
  dsimp only
  rw [Condition.allHold_congr hrule.conditions h.game_agrees, reason_congr hrule h.game_agrees]
  simp only [haward]

theorem performanceAwards_alike {pricing : Pricing} (hkind : rule.kind = .performance pricing) :
    rule.performanceAwards pricing r' game' players' =
      rule.performanceAwards pricing r game players := by
  unfold performanceAwards
  suffices hawards : (rule.target.select players').mapM (rule.playerAward? pricing r' game') =
      (rule.target.select players).mapM (rule.playerAward? pricing r game) by
    rw [hawards]
  apply mapM_eq_of_forall₂ (h.select rule.target).players_agree
  intro p p' hp
  obtain ⟨hid, -, hagree⟩ := hp
  have haward (points : Int) (reason : String) :
      rule.award p' points reason = rule.award p points reason := by
    rw [award, award, hid]
  unfold playerAward?
  dsimp only
  rw [Condition.allHold_congr hrule.conditions hagree, price_congr hrule hkind hagree,
    reason_congr hrule hagree]
  simp only [haward]

theorem awards_alike : rule.awards r' game' players' = rule.awards r game players := by
  unfold Rule.awards
  -- only a multiplier and the conditions read variables
  cases hkind : rule.kind with
  | result => exact resultAwards_alike hrule h
  | performance pricing => exact performanceAwards_alike hrule h hkind
  | manual => rfl
  | unclassified => rfl

theorem preview_alike : rule.preview r' game' players' = rule.preview r game players := by
  unfold preview
  rw [awards_alike hrule h]

end Rule

theorem Award.all_alike (hrules : ∀ rule ∈ rules, rule.NamesOnly P)
    (h : Alike P r r' game game' players players') :
    Award.all rules r' game' players' = Award.all rules r game players := by
  unfold Award.all
  rw [mapM_congr]
  intro rule hrule
  exact Rule.awards_alike (hrules rule (List.mem_filter.mp hrule).1) h

theorem Ledger.assemble_alike {profiles : List Profile} {assignments : List Assignment}
    {withAutomatic : Bool} (hrules : ∀ rule ∈ rules, rule.NamesOnly P)
    (h : Alike P r r' game game' players players') :
    assemble rules profiles assignments r' game' players' withAutomatic =
      assemble rules profiles assignments r game players withAutomatic := by
  have hprofile (p : Profile) :
      profileRows (rules.filter fun rule => rule.kind.isAutomatic) assignments r' game' players' p =
        profileRows (rules.filter fun rule => rule.kind.isAutomatic) assignments r game players
          p := by
    unfold profileRows
    rw [Award.all_alike _ h]
    intro x hx
    obtain ⟨rule, hrule, rfl⟩ := List.mem_map.mp hx
    obtain ⟨hconditions, hmultiplier⟩ :=
      hrules rule (List.mem_filter.mp (List.mem_filter.mp hrule).1).1
    -- the points of the profile are no variable
    exact ⟨hconditions, hmultiplier⟩
  unfold assemble automaticRows
  simp only [funext hprofile]

end ClubPoints
