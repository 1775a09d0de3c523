import ClubPoints.Proofs.Alike
import ClubPoints.Proofs.Deserved
import ClubPoints.Proofs.Readings
import ClubPoints.Proofs.Scores

/-!
# Measures that nothing stands for

A measure counts only under the name of an active variable of its scope that the team declares, and
no declared name is built in (`Store.undeclared_without_influence`).
-/

namespace ClubPoints

open Form

/-! ## Variables -/

namespace Registry

variable {all : List Variable} {key : String} {scope : Scope} {v : Variable}

theorem resolve?_ofVariables (h : (ofVariables all).resolve? key scope = some v) :
    v ∈ Variable.builtIns ∨ v ∈ all ∧ v.isActive = true := by
  unfold resolve? at h
  cases hbuiltIn : Keyed.find? Variable.ident (key, scope) Variable.builtIns with
  | some w =>
    rw [hbuiltIn] at h
    cases h
    exact .inl (Keyed.find?_eq_some hbuiltIn).1
  | none =>
    rw [hbuiltIn] at h
    obtain ⟨hmem, -, hactive⟩ := mem_custom (Keyed.find?_eq_some h).1
    exact .inr ⟨hmem, hactive⟩

theorem resolve?_builtIn (h : Variable.isBuiltInKey key = true) :
    (ofVariables all).resolve? key scope = ({} : Registry).resolve? key scope := by
  have hnone : Keyed.find? Variable.ident (key, scope) (ofVariables all).custom = none := by
    apply Keyed.find?_eq_none.mpr
    intro v hv hident
    obtain ⟨-, hkey, -⟩ := mem_custom hv
    rw [show v.key = key from congrArg Prod.fst hident, h] at hkey
    cases hkey
  unfold resolve?
  rw [hnone]
  rfl

end Registry

theorem Variable.key_ofMatch : ∀ v ∈ builtIns, v.scope = .ofMatch →
    v.key = "goalsFor" ∨ v.key = "goalsAgainst" := by
  decide

theorem Variable.key_ofPlayer : ∀ v ∈ builtIns, v.scope = .ofPlayer →
    v.key = "position" ∨ v.key = "played" ∨ v.key ∈ (Tally.zero.facts).map Prod.fst := by
  decide

/-! ## Measures -/

namespace Keyed

variable {key : String} {values values' : List (String × Value)}

theorem lookup_eq : values.lookup key = (find? Prod.fst key values).map Prod.snd := by
  unfold find?
  induction values with
  | nil => rfl
  | cons x rest ih =>
    obtain ⟨k, v⟩ := x
    by_cases hk : k = key
    · simp [hk]
    · simp [List.lookup_cons, hk, beq_eq_false_iff_ne.mpr (Ne.symm hk), ih]

theorem lookup_placed {f : Int → Value} {entries : List (String × Int)}
    (h : key ∈ entries.map Prod.fst ∨ values.lookup key = values'.lookup key) :
    (entries.foldl (fun values (k, n) => place Prod.fst (k, f n) values) values).lookup key =
      (entries.foldl (fun values (k, n) => place Prod.fst (k, f n) values) values').lookup key := by
  induction entries generalizing values values' with
  | nil => simpa using h
  | cons x rest ih =>
    rw [List.foldl_cons, List.foldl_cons]
    apply ih
    simp only [List.map_cons, List.mem_cons] at h
    rw [lookup_eq, lookup_eq, find?_place, find?_place]
    by_cases hx : x.1 = key
    · simp [hx]
    · simpa [hx, Ne.symm hx, ← lookup_eq] using h

end Keyed

theorem Measure.lookup_values (key : String) (noted : List (String × Measure)) :
    (values noted).lookup key = (noted.lookup key).map value := by
  induction noted with
  | nil => rfl
  | cons x rest ih =>
    obtain ⟨k, m⟩ := x
    unfold values at ih ⊢
    cases hk : key == k with
    | true => simp [List.lookup_cons, hk]
    | false => simp [List.lookup_cons, hk, ih]

namespace Store

variable {s t : Store} {teamId id : Int} {f g : FactsForm}

def Declares (s : Store) (teamId : Int) (scope : Scope) (key : String) : Prop :=
  ∃ v ∈ s.variablesOf teamId, v.isActive = true ∧ v.scope = scope ∧ v.key = key

/-- Measures that say the same under every name that a team declares. -/
def SameDeclared (s : Store) (teamId : Int) (scope : Scope)
    (noted noted' : List (String × Measure)) : Prop :=
  ∀ key, s.Declares teamId scope key → noted.lookup key = noted'.lookup key

instance (scope : Scope) (noted noted' : List (String × Measure)) :
    Decidable (s.SameDeclared teamId scope noted noted') :=
  decidable_of_iff (∀ v ∈ s.variablesOf teamId, v.isActive = true ∧ v.scope = scope →
    noted.lookup v.key = noted'.lookup v.key) <| by
      simp only [SameDeclared, Declares]
      constructor
      · intro h key hdeclared
        obtain ⟨v, hv, hactive, hscope, rfl⟩ := hdeclared
        exact h v hv ⟨hactive, hscope⟩
      · intro h v hv hown
        exact h v.key ⟨v, hv, hown.1, hown.2, rfl⟩

structure StatAlike (s : Store) (teamId : Int) (f g : StatForm) : Prop where
  playerId : f.playerId = g.playerId
  tally : f.tally = g.tally
  played : f.played = g.played
  measures : s.SameDeclared teamId .ofPlayer f.customValues g.customValues

/-- Facts of a match that differ at most in measures that the team does not declare. -/
structure FactsAlike (s : Store) (teamId : Int) (f g : FactsForm) : Prop where
  goalsFor : f.goalsFor = g.goalsFor
  goalsAgainst : f.goalsAgainst = g.goalsAgainst
  measures : s.SameDeclared teamId .ofMatch f.customValues g.customValues
  stats : List.Forall₂ (s.StatAlike teamId) f.stats g.stats

theorem resolve?_registryOf {key : String} {scope : Scope}
    (h : ((s.registryOf teamId).resolve? key scope).isSome = true) :
    (∃ v ∈ Variable.builtIns, v.scope = scope ∧ v.key = key) ∨ s.Declares teamId scope key := by
  obtain ⟨v, hv⟩ := Option.isSome_iff_exists.mp h
  obtain ⟨hkey, hscope⟩ := Registry.resolve?_ident hv
  rcases Registry.resolve?_ofVariables hv with hbuiltIn | ⟨hmem, hactive⟩
  · exact .inl ⟨v, hbuiltIn, hscope, hkey⟩
  · obtain ⟨row, hrow, rfl⟩ := List.mem_map.mp hmem
    exact .inr ⟨row, hrow, hactive, hscope, hkey⟩

theorem FactsAlike.fact_eq (h : s.FactsAlike teamId f g) {key : String}
    (hkey : ((s.registryOf teamId).resolve? key .ofMatch).isSome = true) :
    f.facts.fact key = g.facts.fact key := by
  unfold MatchFacts.fact
  by_cases hfor : key = "goalsFor"
  · simp [hfor, FactsForm.facts, h.goalsFor]
  by_cases hagainst : key = "goalsAgainst"
  · simp [hagainst, FactsForm.facts, h.goalsAgainst]
  rcases resolve?_registryOf hkey with ⟨v, hv, hscope, rfl⟩ | hdeclared
  · rcases Variable.key_ofMatch v hv hscope with hname | hname
    · exact absurd hname hfor
    · exact absurd hname hagainst
  · simp [hfor, hagainst, FactsForm.facts, Measure.lookup_values, h.measures key hdeclared]

theorem StatAlike.fact_eq {f g : StatForm} (h : s.StatAlike teamId f g) (position : Position)
    {key : String} (hkey : ((s.registryOf teamId).resolve? key .ofPlayer).isSome = true) :
    (f.facts position).fact key = (g.facts position).fact key := by
  unfold PlayerFacts.fact
  by_cases hposition : key = "position"
  · simp [hposition, StatForm.facts]
  by_cases hplayed : key = "played"
  · simp [hplayed, StatForm.facts, h.played]
  have hlookup : (f.facts position).values.lookup key = (g.facts position).values.lookup key := by
    unfold StatForm.facts
    rw [h.tally]
    -- the counts are placed over the measures, so a name that is built in reads its count
    apply Keyed.lookup_placed
    rcases resolve?_registryOf hkey with ⟨v, hv, hscope, rfl⟩ | hdeclared
    · rcases Variable.key_ofPlayer v hv hscope with hname | hname | hname
      · exact absurd hname hposition
      · exact absurd hname hplayed
      · exact .inl hname
    · simp [Measure.lookup_values, h.measures key hdeclared]
  simp [hposition, hplayed, hlookup]

/-! ## Players -/

/-- Alike statistics are refused for the same cause or give players who cannot be told apart. -/
theorem factsOf_alike (roster : List PlayerRecord) {stats stats' : List StatForm}
    (h : List.Forall₂ (s.StatAlike teamId) stats stats') (seen : List Int) :
    (∃ cause, factsOf roster seen stats = .error cause ∧ factsOf roster seen stats' = .error cause) ∨
      ∃ players players', factsOf roster seen stats = .ok players ∧
        factsOf roster seen stats' = .ok players' ∧
        List.Forall₂ (fun p p' => p'.playerId = p.playerId ∧ p'.position = p.position ∧
          ∀ key, ((s.registryOf teamId).resolve? key .ofPlayer).isSome = true →
            p.fact key = p'.fact key) players players' := by
  induction h generalizing seen with
  | nil => exact .inr ⟨[], [], rfl, rfl, .nil⟩
  | @cons f g rest rest' hfg _ ih =>
    unfold factsOf
    rw [← hfg.playerId]
    cases roster.find? fun p => p.id == f.playerId with
    | none => exact .inl ⟨_, rfl, rfl⟩
    | some player =>
      dsimp only
      by_cases hseen : seen.contains f.playerId = true
      · rw [if_pos hseen, if_pos hseen]
        exact .inl ⟨_, rfl, rfl⟩
      · rw [if_neg hseen, if_neg hseen]
        rcases ih (f.playerId :: seen) with ⟨cause, hf, hg⟩ | ⟨_, _, hf, hg, hplayers⟩
        · rw [hf, hg]
          exact .inl ⟨cause, rfl, rfl⟩
        · rw [hf, hg]
          refine .inr ⟨_, _, rfl, rfl, .cons ?_ hplayers⟩
          exact ⟨hfg.playerId.symm, rfl, fun key hkey => hfg.fact_eq player.position hkey⟩

/-- What is made of players who cannot be told apart is the same for alike facts. -/
theorem playerFacts_alike {β : Type} {team : TeamRecord} (h : s.FactsAlike team.id f g)
    {score score' : List PlayerFacts → Except Cause β}
    (hscore : ∀ players players', Alike (fun _ => True) (s.registryOf team.id)
      (s.registryOf team.id) f.facts g.facts players players' → score' players' = score players) :
    s.playerFacts team f >>= score = s.playerFacts team g >>= score' := by
  unfold playerFacts
  rcases factsOf_alike (s.rosterOf team.id) h.stats [] with hcause | hplayers
  · obtain ⟨cause, hf, hg⟩ := hcause
    rw [hf, hg]
    rfl
  · obtain ⟨players, players', hf, hg, hplayers⟩ := hplayers
    rw [hf, hg]
    exact (hscore players players' (.of_facts (fun _ hkey => h.fact_eq hkey) hplayers)).symm

/-! ## Trying out and completing -/

theorem previewMatch_alike {game : MatchRecord} (h : s.FactsAlike game.teamId f g)
    (hgame : s.find? id = some game) (profileId : Option Int) :
    s.previewMatch id f profileId = s.previewMatch id g profileId := by
  unfold previewMatch
  apply bind_congr_ok
  intro game' hgame'
  obtain rfl : game' = game := Option.some.inj ((get_eq_ok.mp hgame').2.symm.trans hgame)
  apply bind_congr_ok
  intro team hteam
  rw [← (find?_eq_some (get_eq_ok.mp hteam).2).2] at h
  apply bind_congr_ok
  intro _ _
  apply bind_congr_ok
  intro rules _
  apply playerFacts_alike h
  intro players players' halike
  rw [Award.all_alike (fun rule _ => rule.namesOnly_true) halike]

theorem previewRule_alike {row : RuleRecord} (h : s.FactsAlike row.teamId f g)
    (hrow : s.find? id = some row) : s.previewRule id f = s.previewRule id g := by
  unfold previewRule
  apply bind_congr_ok
  intro row' hrow'
  obtain rfl : row' = row := Option.some.inj ((get_eq_ok.mp hrow').2.symm.trans hrow)
  apply bind_congr_ok
  intro team hteam
  rw [← (find?_eq_some (get_eq_ok.mp hteam).2).2] at h
  apply bind_congr_ok
  intro rule _
  apply playerFacts_alike h
  intro players players' halike
  rw [rule.preview_alike rule.namesOnly_true halike]

theorem completionLedger_alike {team : TeamRecord} (h : s.FactsAlike team.id f g)
    (assignments : List AssignmentForm) (withAutomatic : Bool) :
    s.completionLedger team { facts := f, assignments } withAutomatic =
      s.completionLedger team { facts := g, assignments } withAutomatic := by
  unfold completionLedger
  apply playerFacts_alike h
  intro players players' halike
  apply bind_congr_ok
  intro _ _
  apply bind_congr_ok
  intro rules _
  rw [Ledger.assemble_alike (fun rule _ => rule.namesOnly_true) halike]

/-! ## Declared names -/

/-- What holds of the row of every new variable and stays when a variable is switched on or off holds
of every stored variable. -/
theorem Reachable.each_variable (h : s.Reachable) {P : VariableRecord → Prop}
    (created : ∀ form id, Variable.isBuiltInKey form.key = false →
      Table.fault? (newVariable form id) = none → P (Table.kept (newVariable form id)))
    (switched : ∀ v isActive, P v → P (Table.kept { v with isActive := isActive })) :
    ∀ v ∈ s.ownVariables, P v := by
  apply h.induction (P := fun s => ∀ v ∈ s.ownVariables, P v)
  · exact fun _ h => absurd h List.not_mem_nil
  · intro _ s a t _ hs _ ht
    rcases ht.touched.ownVariables with hsame | ⟨_, ht⟩ | ⟨_, _, ht⟩ | ⟨_, ht⟩
    · rw [hsame]
      exact hs
    · obtain ⟨w, rfl, hkey, hsound, -, rfl⟩ := createVariable_leads ht
      intro v hv
      rcases mem_placed.mp hv with rfl | hv
      · exact created _ _ hkey (fault?_eq_none.mp hsound).2.1
      · exact hs v hv
    · obtain ⟨w, hw, hu⟩ := setVariableActive_leads ht
      obtain ⟨-, -, rfl⟩ := update_eq_ok.mp hu
      intro v hv
      rcases mem_placed.mp hv with rfl | hv
      · exact switched w _ (hs w (find?_eq_some hw).1)
      · exact hs v (List.mem_filter.mp hv).1
    · rw [deleteVariable_leads ht]
      exact fun v hv => hs v (List.mem_filter.mp hv).1

theorem Reachable.key_not_builtIn (h : s.Reachable) :
    ∀ v ∈ s.ownVariables, Variable.isBuiltInKey v.key = false :=
  h.each_variable (fun _ _ hkey _ => hkey) fun _ _ hkey => hkey

/-- Built-in names are never declared, and measures under names that are not declared change neither
what is tried out nor a ledger. Rules that name built-in variables only are judged as if no variable
were declared. -/
theorem undeclared_without_influence (hs : s.Reachable) :
    (∀ teamId scope key, s.Declares teamId scope key → Variable.isBuiltInKey key = false) ∧
    (∀ f g : FactsForm,
      (∀ (id : Int) (game : MatchRecord), s.find? id = some game →
        s.FactsAlike game.teamId f g → ∀ profileId,
          s.previewMatch id f profileId = s.previewMatch id g profileId) ∧
      (∀ (id : Int) (row : RuleRecord), s.find? id = some row →
        s.FactsAlike row.teamId f g → s.previewRule id f = s.previewRule id g) ∧
      ∀ team : TeamRecord, s.FactsAlike team.id f g → ∀ assignments withAutomatic,
        s.completionLedger team { facts := f, assignments } withAutomatic =
          s.completionLedger team { facts := g, assignments } withAutomatic) ∧
    ∀ rules all game players,
      (∀ rule ∈ rules, rule.NamesOnly fun key => Variable.isBuiltInKey key = true) →
        Award.all rules (.ofVariables all) game players = Award.all rules {} game players := by
  refine ⟨?_, ?_, ?_⟩
  · intro teamId scope key hdeclared
    obtain ⟨v, hv, -, -, rfl⟩ := hdeclared
    exact hs.key_not_builtIn v (List.mem_filter.mp hv).1
  · intro f g
    refine ⟨?_, ?_, ?_⟩
    · intro id game hgame h profileId
      exact previewMatch_alike h hgame profileId
    · intro id row hrow h
      exact previewRule_alike h hrow
    · intro team h assignments withAutomatic
      exact completionLedger_alike h assignments withAutomatic
  · intro rules all game players hrules
    apply Award.all_alike hrules
    apply Alike.of_variables
    intro key scope hkey
    exact Registry.resolve?_builtIn hkey

def measured : List Arrival := season ++ [
  .posting "/variables/" (VariableForm.document {
    teamId := 1, key := "interceptions", label := "Interceptions", description := "Passes cut off"
    scope := .ofPlayer, dataType := .number, defaultValue := none }),
  .posting "/rules/" (RuleForm.document {
    teamId := 1, name := "Interceptions", description := "Per interception"
    category := .performance, points := 3, isMultiplier := true, multiplier := some "interceptions"
    conditions := [
      { key := some "interceptions", operator := some .greater, value := some .zero }] })]

def noting (ofMatch ofPlayer : List (String × Measure)) : FactsForm where
  goalsFor := 2
  customValues := ofMatch
  stats := [{ playerId := 1, customValues := ofPlayer }]

def plainMeasures : FactsForm := noting [] [("interceptions", .whole 2)]

def strayMeasures : FactsForm :=
  noting [("goalsFor", .whole 9), ("interceptions", .whole 5)]
    [("goalsScored", .whole 7), ("interceptions", .whole 2), ("position", .truth true)]

theorem undeclared_without_influence_measured :
    (after {} measured).previewMatch 2 plainMeasures none =
        (after {} measured).previewMatch 2 strayMeasures none ∧
      ((after {} measured).previewMatch 2 strayMeasures none).toOption.map
        (fun awards => awards.map fun a => (a.ruleId, a.points)) = some [(3, 6)] ∧
      (after {} measured).previewRule 3 plainMeasures =
        (after {} measured).previewRule 3 strayMeasures ∧
      (after {} measured).completionLedger { id := 1, name := "First", clubId := 1 }
          { facts := plainMeasures } true =
        (after {} measured).completionLedger { id := 1, name := "First", clubId := 1 }
          { facts := strayMeasures } true ∧
      Award.all winAndGoals (.ofVariables [{ key := "saves", label := "", scope := .ofMatch }])
          { goalsFor := 3, goalsAgainst := 1 } forwardAndDefender =
        Award.all winAndGoals {} { goalsFor := 3, goalsAgainst := 1 } forwardAndDefender := by
  obtain ⟨-, halike, hrules⟩ := undeclared_without_influence (s := after {} measured) ⟨measured, rfl⟩
  obtain ⟨hmatch, hrule, hledger⟩ := halike plainMeasures strayMeasures
  have hsame : (after {} measured).SameDeclared 1 .ofMatch [] strayMeasures.customValues ∧
      ∀ f ∈ strayMeasures.stats,
        (after {} measured).SameDeclared 1 .ofPlayer [("interceptions", .whole 2)] f.customValues := by
    decide +kernel
  have hfacts : (after {} measured).FactsAlike 1 plainMeasures strayMeasures :=
    ⟨rfl, rfl, hsame.1, .cons ⟨rfl, rfl, rfl, hsame.2 _ List.mem_cons_self⟩ .nil⟩
  have hteams : ((after {} measured).find? 2 : Option MatchRecord).map MatchRecord.teamId =
        some 1 ∧
      ((after {} measured).find? 3 : Option RuleRecord).map RuleRecord.teamId = some 1 := by
    decide +kernel
  obtain ⟨game, hgame, hgameTeam⟩ := Option.map_eq_some_iff.mp hteams.1
  obtain ⟨row, hrow, hrowTeam⟩ := Option.map_eq_some_iff.mp hteams.2
  refine ⟨hmatch 2 game hgame ?_ none, by decide +kernel, hrule 3 row hrow ?_,
    hledger _ hfacts [] true, hrules _ _ _ _ ?_⟩
  · rw [hgameTeam]
    exact hfacts
  · rw [hrowTeam]
    exact hfacts
  · intro rule hrule
    simp only [winAndGoals, List.mem_cons, List.not_mem_nil, or_false] at hrule
    constructor
    · rcases hrule with rfl | rfl | rfl | rfl <;> unfold Condition.NamesOnly <;> decide
    · intro key scope hkind
      rcases hrule with rfl | rfl | rfl | rfl <;> cases hkind
      decide

end Store

end ClubPoints
