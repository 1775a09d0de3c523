import ClubPoints.Proofs.FreshKeys

/-!
# Listed variables and registries

Variables are listed whether they are active or not, and matches are scored with a registry of the
active ones. Since no key is listed twice, the two agree on types and defaults; only an infinite
default cannot be shown (`Store.registry_listed`).
-/

namespace ClubPoints

open Form View

theorem Scope.name_inj {a b : Scope} (h : a.name = b.name) : a = b := by
  cases a <;> cases b <;> first | rfl | exact absurd h (by decide)

/-! ## Listed items -/

namespace Value

structure ListsActive (item : Value) (key : String) (scope : Scope) : Prop where
  key : item.field "key" = .text key
  scope : item.field "scope" = .text scope.name
  isActive : item.field "is_active" = .truth true

structure Lists (item : Value) (v : Variable) : Prop where
  key : item.field "key" = .text v.key
  scope : item.field "scope" = .text v.scope.name
  isActive : item.field "is_active" = .truth v.isActive
  dataType : item.field "data_type" = .text v.dataType.name
  default : item.field "default_value" = if v.defaultValue.isInfinite then .null else v.defaultValue

theorem Lists.listsActive_iff {item : Value} {v : Variable} (h : item.Lists v) {key : String}
    {scope : Scope} : item.ListsActive key scope ↔ v.isActive = true ∧ v.ident = (key, scope) := by
  constructor
  · intro ⟨hkey, hscope, hactive⟩
    rw [h.key] at hkey
    rw [h.scope] at hscope
    rw [h.isActive] at hactive
    exact ⟨Value.truth.inj hactive,
      Prod.ext (Value.text.inj hkey) (Scope.name_inj (Value.text.inj hscope))⟩
  · rintro ⟨hactive, hident⟩
    obtain ⟨rfl, rfl⟩ := Prod.mk.inj hident
    exact ⟨h.key, h.scope, by rw [h.isActive, hactive]⟩

theorem Lists.default_finite {item : Value} {v : Variable} (h : item.Lists v) :
    (item.field "default_value").isInfinite = false := by
  rw [h.default]
  cases hinfinite : v.defaultValue.isInfinite with
  | false => exact hinfinite
  | true => rfl

theorem Lists.default_iff {item : Value} {v : Variable} (h : item.Lists v) :
    item.field "default_value" = v.defaultValue ↔ v.defaultValue.isInfinite = false := by
  constructor
  · intro hsame
    rw [← hsame]
    exact h.default_finite
  · intro hfinite
    rw [h.default, hfinite]
    rfl

end Value

namespace Variable

theorem isActive_builtIn : ∀ v ∈ builtIns, v.isActive = true := by
  decide

theorem nodup_key_builtIns : (builtIns.map key).Nodup := by
  decide

theorem defaultValue_builtIn {v : Variable} (h : v ∈ builtIns) :
    v.defaultValue = .whole 0 ∨ v.defaultValue = .truth true ∨ v.defaultValue = .null := by
  simp only [builtIns, List.mem_cons, List.not_mem_nil, or_false] at h
  rcases h with rfl | rfl | rfl | rfl | rfl | rfl | rfl | rfl | rfl | rfl | rfl | rfl <;>
    simp [builtIn]

def item (v : Variable) (id teamId : Option Int) : Value := (v.view id teamId).document.presentable

theorem lists_item {v : Variable} (id teamId : Option Int)
    (h : (defaultView v.defaultValue).value.presentable =
      if v.defaultValue.isInfinite then .null else v.defaultValue) :
    (v.item id teamId).Lists v where
  key := rfl
  scope := rfl
  isActive := rfl
  dataType := rfl
  default := h

end Variable

/-! ## Listed variables -/

namespace Store

variable {s t : Store} {teamId : Int} {key : String} {scope : Scope} {v : Variable}

theorem Reachable.default_ne_nan (h : s.Reachable) :
    ∀ v ∈ s.ownVariables, v.defaultValue ≠ .nan := by
  have hkept {v : VariableRecord} (hnan : v.defaultValue ≠ .nan) :
      (Table.kept v).defaultValue ≠ .nan := by
    change v.defaultValue.withoutZeroSign ≠ .nan
    cases hdefault : v.defaultValue with
    | nan => exact absurd hdefault hnan
    | _ => nofun
  refine h.each_variable (fun form id _ hsound => hkept ?_) fun v isActive hnan => hkept hnan
  change VariableRecord.fault? (newVariable form id) = none at hsound
  exact (some_else_eq_none.mp hsound).1

def listedRows (s : Store) (teamId : Int) : List VariableRecord :=
  (s.variablesOf teamId).mergeSort fun a b => textBefore a.key b.key

def listedVariables (s : Store) (teamId : Int) : List Variable :=
  Variable.builtIns ++ (s.listedRows teamId).map VariableRecord.variable

def listedItems (s : Store) (teamId : Int) : List Value :=
  Variable.builtIns.map (fun v => v.item none none) ++
    (s.listedRows teamId).map fun r => r.variable.item (some r.id) (some r.teamId)

theorem mem_listedRows {r : VariableRecord} :
    r ∈ s.listedRows teamId ↔ r ∈ s.variablesOf teamId := by
  rw [listedRows, List.mem_mergeSort]

theorem lists_listedItems (hs : s.Reachable) :
    List.Forall₂ (fun v item => Value.Lists item v) (s.listedVariables teamId)
      (s.listedItems teamId) := by
  apply List.rel_append
  · rw [List.forall₂_map_right_iff, List.forall₂_same]
    intro v hv
    apply Variable.lists_item
    rcases Variable.defaultValue_builtIn hv with h | h | h <;> rw [h] <;> rfl
  · rw [List.forall₂_map_left_iff, List.forall₂_map_right_iff, List.forall₂_same]
    intro r hr
    apply Variable.lists_item
    have hnan := hs.default_ne_nan r (List.mem_filter.mp (mem_listedRows.mp hr)).1
    unfold VariableRecord.variable DataType.default
    dsimp only
    split
    · rfl
    · cases hdefault : r.defaultValue with
      | nan => exact absurd hdefault hnan
      | _ => rfl

theorem nodup_key_listedVariables (hs : s.Reachable) :
    ((s.listedVariables teamId).map Variable.key).Nodup := by
  have hown : ((s.listedRows teamId).map VariableRecord.key).Nodup :=
    ((List.mergeSort_perm ..).map _).nodup_iff.mpr (nodup_within teamId hs.keys_nodup)
  rw [listedVariables, List.map_append, List.map_map, List.nodup_append]
  refine ⟨Variable.nodup_key_builtIns, hown, ?_⟩
  intro a ha b hb hab
  obtain ⟨v, hv, rfl⟩ := List.mem_map.mp ha
  obtain ⟨r, hr, rfl⟩ := List.mem_map.mp hb
  have hbuiltIn : Variable.isBuiltInKey r.key = true :=
    List.any_eq_true.mpr ⟨v, hv, beq_iff_eq.mpr hab⟩
  rw [hs.key_not_builtIn r (List.mem_filter.mp (mem_listedRows.mp hr)).1] at hbuiltIn
  cases hbuiltIn

/-- A registry finds just the active ones of the listed variables. -/
theorem resolve?_eq_some_iff (hs : s.Reachable) :
    (s.registryOf teamId).resolve? key scope = some v ↔
      v ∈ s.listedVariables teamId ∧ v.isActive = true ∧ v.ident = (key, scope) := by
  constructor
  · intro h
    obtain ⟨hkey, hscope⟩ := Registry.resolve?_ident h
    refine (Registry.resolve?_ofVariables h).elim (fun hbuiltIn => ?_) fun ⟨hown, hactive⟩ => ?_
    · exact ⟨List.mem_append_left _ hbuiltIn, Variable.isActive_builtIn v hbuiltIn,
        Prod.ext hkey hscope⟩
    · obtain ⟨r, hr, rfl⟩ := List.mem_map.mp hown
      exact ⟨List.mem_append_right _ (List.mem_map_of_mem (mem_listedRows.mpr hr)), hactive,
        Prod.ext hkey hscope⟩
  · rintro ⟨hv, hactive, hident⟩
    obtain ⟨rfl, rfl⟩ := Prod.mk.inj hident
    rcases List.mem_append.mp hv with hbuiltIn | hown
    · have hfound : Keyed.find? Variable.ident v.ident Variable.builtIns = some v :=
        Keyed.find?_unique hbuiltIn fun w hw hsame =>
          List.inj_on_of_nodup_map Variable.nodup_key_builtIns hw hbuiltIn (congrArg Prod.fst hsame)
      unfold Registry.resolve?
      rw [← Variable.ident, hfound]
      rfl
    · obtain ⟨r, hr, rfl⟩ := List.mem_map.mp hown
      have hrow := mem_listedRows.mp hr
      have hfound := resolve?_registryOf_row hrow (nodup_within teamId hs.keys_nodup)
        (hs.key_not_builtIn r (List.mem_filter.mp hrow).1) hactive r.scope
      rw [if_pos rfl] at hfound
      exact hfound

theorem served_listVariables (hs : s.Reachable) (hteam : s.holds (.team teamId) = true)
    {x : Arrival} (hx : x.request.action = .ok (.listVariables teamId)) :
    s.served x = (.shown 200 (.list (s.listedItems teamId)), s) := by
  obtain ⟨team, hid, hget⟩ := exists_team hs hteam
  have hrows : s.variablesByKey teamId = .ok (s.listedRows teamId) := by
    unfold variablesByKey
    rw [hget, ← hid]
    rfl
  have hrun : (Action.listVariables teamId).run x.policy x.isRefused s =
      .ok { store := s, shown := some (showVariables (s.listedRows teamId)) } :=
    Outcome.ofQuery_eq_ok.mpr ⟨_, map_eq_ok.mpr ⟨_, hrows, rfl⟩, rfl⟩
  have hshown :
      (showVariables (s.listedRows teamId)).presentable = .list (s.listedItems teamId) := by
    rw [showVariables, Value.listed, Value.presentable, Value.presentables_eq_map, listedItems]
    simp only [List.map_append, List.map_map]
    rfl
  rw [served_of_action hx, Action.serve, hrun, ← hshown]
  rfl

/-- In every store that requests lead to, a team's registry finds a variable under a key and a scope
just if the listing of the team has an active item under them. There is one such item only, no key
is listed twice, and the item shows the type of the variable found and its default, for which null
stands if it is infinite. -/
theorem registry_listed (s : Store) (hs : s.Reachable) (teamId : Int)
    (hteam : s.holds (.team teamId) = true) (x : Arrival)
    (hx : x.request.action = .ok (.listVariables teamId)) :
    ∃ items, s.served x = (.shown 200 (.list items), s) ∧
      (items.map fun item => item.field "key").Nodup ∧
      ∀ key scope,
        (((s.registryOf teamId).resolve? key scope).isSome = true ↔
          ∃ item ∈ items, item.ListsActive key scope) ∧
        ∀ v, (s.registryOf teamId).resolve? key scope = some v →
          ∃ item ∈ items, item.ListsActive key scope ∧
            (∀ other ∈ items, other.ListsActive key scope → other = item) ∧
            item.field "data_type" = .text v.dataType.name ∧
            (item.field "default_value" = v.defaultValue ↔ v.defaultValue.isInfinite = false) ∧
            (v.defaultValue.isInfinite = true → item.field "default_value" = .null) := by
  have hitems : List.Forall₂ (fun v item => Value.Lists item v) (s.listedVariables teamId)
      (s.listedItems teamId) := lists_listedItems hs
  have hnodup : ((s.listedItems teamId).map fun item => item.field "key").Nodup := by
    have hkeys : (s.listedItems teamId).map (fun item => item.field "key") =
        ((s.listedVariables teamId).map Variable.key).map Value.text :=
      (map_eq_of_forall₂ hitems fun _ _ h => h.key).trans (List.map_map ..).symm
    rw [hkeys]
    exact (nodup_key_listedVariables hs).map fun _ _ => Value.text.inj
  refine ⟨_, served_listVariables hs hteam hx, hnodup, fun key scope => ⟨⟨?_, ?_⟩, ?_⟩⟩
  · intro h
    obtain ⟨v, hv⟩ := Option.isSome_iff_exists.mp h
    obtain ⟨hlisted, hfound⟩ := (resolve?_eq_some_iff hs).mp hv
    obtain ⟨item, hitem, hshows⟩ := exists_of_forall₂ hitems.flip v hlisted
    exact ⟨item, hitem, hshows.listsActive_iff.mpr hfound⟩
  · rintro ⟨item, hitem, hactive⟩
    obtain ⟨v, hlisted, hshows⟩ := exists_of_forall₂ hitems item hitem
    exact Option.isSome_iff_exists.mpr
      ⟨v, (resolve?_eq_some_iff hs).mpr ⟨hlisted, hshows.listsActive_iff.mp hactive⟩⟩
  · intro v hv
    obtain ⟨hlisted, hfound⟩ := (resolve?_eq_some_iff hs).mp hv
    obtain ⟨item, hitem, hshows⟩ := exists_of_forall₂ hitems.flip v hlisted
    have hactive := hshows.listsActive_iff.mpr hfound
    refine ⟨item, hitem, hactive, fun other hother hlists => ?_, hshows.dataType,
      hshows.default_iff, fun h => ?_⟩
    · exact List.inj_on_of_nodup_map hnodup hother hitem (hlists.key.trans hactive.key.symm)
    · rw [hshows.default, if_pos h]

/-- A team with two variables, one of them with an infinite default and the other one not active. -/
def blocksAndFouls : List Arrival := [
  .posting "/clubs/" (ClubForm.document { name := "Rovers" }),
  .posting "/teams/" (TeamForm.document { name := "First", clubId := 1 }),
  .posting "/variables/" blocks.document,
  .posting "/variables/" (VariableForm.document { blocks with key := "fouls" }),
  { request := { method := .patch, path := "/variables/2/active"
                 body := .document (ActivityForm.document { isActive := false }) } }]

def askingVariables : Arrival where
  request := { method := .get, path := "/variables/", query := [("team_id", "1")] }

theorem team_blocksAndFouls : (after {} blocksAndFouls).holds (.team 1) = true := by decide +kernel

theorem infinite_blocks :
    (((after {} blocksAndFouls).registryOf 1).resolve? "blocks" .ofPlayer).map
      (fun v => v.defaultValue.isInfinite) = some true := by
  decide +kernel

theorem registry_listed_blocksAndFouls :
    (after {} blocksAndFouls).Reachable ∧ (after {} blocksAndFouls).holds (.team 1) = true ∧
      askingVariables.request.action = .ok (.listVariables 1) ∧
      ∃ items, (after {} blocksAndFouls).served askingVariables =
          (.shown 200 (.list items), after {} blocksAndFouls) ∧
        (∃ item ∈ items, item.ListsActive "blocks" .ofPlayer ∧
          item.field "default_value" = .null) ∧
        ¬∃ item ∈ items, item.ListsActive "fouls" .ofPlayer := by
  have hreachable : (after {} blocksAndFouls).Reachable := ⟨blocksAndFouls, rfl⟩
  have hasked : askingVariables.request.action = .ok (.listVariables 1) := rfl
  obtain ⟨items, hserved, -, hlisted⟩ := registry_listed (after {} blocksAndFouls) hreachable 1
    team_blocksAndFouls askingVariables hasked
  have hfouls : (((after {} blocksAndFouls).registryOf 1).resolve? "fouls" .ofPlayer).isSome =
      false := by decide +kernel
  obtain ⟨v, hv, hinfinite⟩ := Option.map_eq_some_iff.mp infinite_blocks
  obtain ⟨item, hitem, hactive, -, -, -, hnull⟩ := (hlisted "blocks" .ofPlayer).2 v hv
  refine ⟨hreachable, team_blocksAndFouls, hasked, items, hserved,
    ⟨item, hitem, hactive, hnull hinfinite⟩, fun h => ?_⟩
  rw [(hlisted "fouls" .ofPlayer).1.mpr h] at hfouls
  cases hfouls

/-- The infinite default is not the one that is shown. -/
theorem registry_listed_not_always :
    ¬∀ (s : Store) (teamId : Int) (x : Arrival) (items : List Value), s.Reachable →
      s.holds (.team teamId) = true → x.request.action = .ok (.listVariables teamId) →
      s.served x = (.shown 200 (.list items), s) →
      ∀ key scope v, (s.registryOf teamId).resolve? key scope = some v →
        ∃ item ∈ items, item.ListsActive key scope ∧
          item.field "default_value" = v.defaultValue := by
  intro h
  have hreachable : (after {} blocksAndFouls).Reachable := ⟨blocksAndFouls, rfl⟩
  have hserved := served_listVariables hreachable team_blocksAndFouls (x := askingVariables) rfl
  obtain ⟨v, hv, hinfinite⟩ := Option.map_eq_some_iff.mp infinite_blocks
  obtain ⟨item, hitem, -, hdefault⟩ :=
    h _ 1 askingVariables _ hreachable team_blocksAndFouls rfl hserved "blocks" .ofPlayer v hv
  obtain ⟨w, -, hshows⟩ := exists_of_forall₂ (lists_listedItems hreachable) item hitem
  have hfinite := hshows.default_finite
  rw [hdefault, hinfinite] at hfinite
  cases hfinite

end Store

end ClubPoints
