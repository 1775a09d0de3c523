import ClubPoints.Proofs.Preview

/-!
# What concerns another team

The rows of all teams stand in the same tables, and the profiles of a club are those of all its
teams. A request that concerns one team leaves to any other team all that its matches are shown and
scored by (`Untouched.served`, `Untouched.answer_eq`).
-/

namespace ClubPoints

open Form

/-! ## Lists that are picked from -/

theorem filter_eq_of_imp {α : Type} {p q : α → Bool} (hqp : ∀ x, q x = true → p x = true)
    {xs ys : List α} (h : xs.filter p = ys.filter p) : xs.filter q = ys.filter q := by
  have hboth (l : List α) : (l.filter p).filter q = l.filter q := by
    rw [List.filter_filter]
    refine List.filter_congr fun x _ => ?_
    cases hx : q x with
    | false => rfl
    | true => rw [hqp x hx, Bool.and_self]
  rw [← hboth xs, h, hboth]

theorem find?_eq_of_filter {α : Type} {p : α → Bool} {xs ys : List α}
    (h : xs.filter p = ys.filter p) : xs.find? p = ys.find? p := by
  rw [← List.head?_filter, h, List.head?_filter]

namespace Store

variable {s t : Store} {a b : Int}

theorem filter_replaced {R : Type} [Table R] {rows : List R} {old r : R} {p : R → Bool}
    (hn : (rows.map Table.id).Nodup) (hold : old ∈ rows) (hid : Table.id old = Table.id r)
    (hp : p old = false) (hr : p (Table.kept r) = false) :
    (placed (rows.filter fun x => Table.id x != Table.id r) r).filter p = rows.filter p := by
  rw [filter_placed hr, List.filter_filter]
  refine List.filter_congr fun x hx => ?_
  by_cases hxr : Table.id x = Table.id r
  · have hxo : x = old := List.inj_on_of_nodup_map hn hx hold (hxr.trans hid.symm)
    rw [hxo, hp, Bool.false_and]
  · rw [bne_iff_ne.mpr hxr, Bool.and_true]

/-! ## All that a team is scored by -/

structure SameFor (a : Int) (s t : Store) : Prop where
  team : (t.find? a : Option TeamRecord) = s.find? a
  games : ∀ g : MatchRecord, g.teamId = a → (g ∈ t.games ↔ g ∈ s.games)
  roster : t.rosterOf a = s.rosterOf a
  rules : t.ruleRecordsOf a = s.ruleRecordsOf a
  conditions : ∀ r ∈ s.ruleRecordsOf a, t.conditionsOf r.id = s.conditionsOf r.id
  ownVariables : t.variablesOf a = s.variablesOf a
  profiles : t.profiles = s.profiles
  profileRules : t.profileRules = s.profileRules

/-- The scores of the team's matches are the same too. -/
structure Untouched (a : Int) (s t : Store) : Prop extends SameFor a s t where
  stats : ∀ g ∈ s.games, g.teamId = a → t.statsOf g.id = s.statsOf g.id
  entries : ∀ g ∈ s.games, g.teamId = a → t.entriesOf g.id = s.entriesOf g.id

theorem Untouched.refl (a : Int) (s : Store) : Untouched a s s where
  team := rfl
  games _ _ := Iff.rfl
  roster := rfl
  rules := rfl
  conditions _ _ := rfl
  ownVariables := rfl
  profiles := rfl
  profileRules := rfl
  stats _ _ _ := rfl
  entries _ _ _ := rfl

end Store

/-! ## Requests that concern one team -/

/-- An action that adds something to a team, or changes or removes what the team has. -/
def Action.Concerns (s : Store) (b : Int) : Action → Prop
  | .createPlayer form => form.teamId = b
  | .createRule form => form.teamId = b
  | .createVariable form => form.teamId = b
  | .createMatch form => form.teamId = b
  | .setTeamProfile id _ => id = b
  | .setRuleActive id _ => ∀ r : RuleRecord, s.find? id = some r → r.teamId = b
  | .setVariableActive id _ | .deleteVariable id =>
    ∀ v : VariableRecord, s.find? id = some v → v.teamId = b
  | .completeMatch id _ => ∀ g : MatchRecord, s.find? id = some g → g.teamId = b
  | _ => False

def Arrival.Asks (x : Arrival) (kind : Action → Prop) : Prop :=
  ∀ a, x.request.action = .ok a → kind a

theorem Arrival.Asks.of_action {x : Arrival} {kind : Action → Prop} {a : Action}
    (h : x.request.action = .ok a) (ha : kind a) : x.Asks kind := by
  intro a' h'
  rw [← Except.ok.inj (h.symm.trans h')]
  exact ha

namespace Store

variable {s t : Store} {a b id : Int} {form : CompletionForm} {withAutomatic : Bool}

theorem AgreeBut.statsOf_eq (h : AgreeBut id s t) {other : Int} (hne : other ≠ id) :
    t.statsOf other = s.statsOf other :=
  filter_eq_of_imp (fun r hr => by simpa [eq_of_beq hr] using hne) h.stats

theorem AgreeBut.entriesOf_eq (h : AgreeBut id s t) {other : Int} (hne : other ≠ id) :
    t.entriesOf other = s.entriesOf other :=
  filter_eq_of_imp (fun r hr => by simpa [eq_of_beq hr] using hne) h.entries

theorem Completion.mem_games (c : Completion s id form withAutomatic t) {g : MatchRecord} :
    g ∈ t.games ↔ g = c.game.completedBy form.facts ∨ g ∈ s.games ∧ g.id ≠ id := by
  rw [c.games_eq, mem_placed, List.mem_filter, bne_iff_ne]
  exact Iff.rfl

theorem Completion.eq_game (c : Completion s id form withAutomatic t) (hn : s.Numbered)
    {g : MatchRecord} (hg : g ∈ s.games) (hid : g.id = id) : g = c.game :=
  List.inj_on_of_nodup_map hn.games hg (find?_eq_some c.game_found).1 (hid.trans c.game_id.symm)

theorem Completion.games_kept (c : Completion s id form withAutomatic t) (hn : s.Numbered) :
    Kept (fun x => (x.id, x.teamId)) s.games t.games := by
  intro g hg
  by_cases hid : g.id = id
  · exact ⟨_, c.mem_games.mpr (.inl rfl), by rw [c.eq_game hn hg hid]; rfl⟩
  · exact ⟨g, c.mem_games.mpr (.inr ⟨hg, hid⟩), rfl⟩

namespace Untouched

theorem completed (hn : s.Numbered) (c : Completion s id form withAutomatic t)
    (hgame : c.game.teamId ≠ a) : Untouched a s t := by
  have hagree := c.agree
  have hother {g : MatchRecord} (hg : g ∈ s.games) (hteam : g.teamId = a) : g.id ≠ id :=
    fun hid => hgame (c.eq_game hn hg hid ▸ hteam)
  have hgames (g : MatchRecord) (hteam : g.teamId = a) : g ∈ t.games ↔ g ∈ s.games := by
    rw [c.mem_games]
    constructor
    · rintro (rfl | hg)
      · exact absurd hteam hgame
      · exact hg.1
    · exact fun hg => .inr ⟨hg, hother hg hteam⟩
  have hstats (g : MatchRecord) (hg : g ∈ s.games) (hteam : g.teamId = a) :
      t.statsOf g.id = s.statsOf g.id := hagree.statsOf_eq (hother hg hteam)
  have hentries (g : MatchRecord) (hg : g ∈ s.games) (hteam : g.teamId = a) :
      t.entriesOf g.id = s.entriesOf g.id := hagree.entriesOf_eq (hother hg hteam)
  have h := refl a s
  rw [c.frame]
  exact { h with games := hgames, stats := hstats, entries := hentries }

theorem ruleCreated (hab : a ≠ b) {form : RuleForm} (hb : form.teamId = b)
    (h : Leads (s.createRule form) t) : Untouched a s t := by
  obtain ⟨rule, conditions, _, hrecord, ⟨hsound, -, rfl⟩, hconditions⟩ := createRule_leads h
  obtain ⟨-, -, hfresh, -⟩ := fault?_eq_none.mp hsound
  have hteam : rule.teamId = b := by rw [hrecord]; exact hb
  have hown : ∀ c ∈ conditions, c.ruleId = rule.id := by
    intro c hc
    obtain ⟨_, hnew, n, rfl⟩ := exists_of_forall₂ hconditions.numbers c hc
    obtain ⟨_, -, rfl⟩ := List.mem_map.mp hnew
    rfl
  rw [hconditions.store]
  have hs := refl a s
  refine { hs with
    rules := filter_placed (beq_false_of_ne (hteam ▸ hab.symm))
    conditions := fun r hr => ?_ }
  have hne : rule.id ≠ r.id := (hfresh r (List.mem_filter.mp hr).1).symm
  refine congrArg (List.mergeSort · _) (filter_placedAll fun c hc => ?_)
  exact beq_false_of_ne (hown c hc ▸ hne)

theorem turns (hn : s.Numbered) (hab : a ≠ b) {policy : Policy} {x : Action}
    (hx : x.Concerns s b) (ht : x.Turns policy s t) : Untouched a s t := by
  have h := refl a s
  cases ht with
  | nothing => exact h
  | createPlayer ht =>
    obtain ⟨player, hteam, -, -, rfl⟩ := createPlayer_leads ht
    have hne : player.teamId ≠ a := (hteam.trans hx).trans_ne hab.symm
    exact { h with roster := filter_placed (beq_false_of_ne hne) }
  | createMatch ht =>
    obtain ⟨-, -, rfl⟩ := createMatch_leads ht
    refine { h with games := fun g hteam => ?_ }
    refine mem_placed.trans ⟨?_, .inr⟩
    rintro (rfl | hg)
    · exact absurd (hx.symm.trans hteam) hab.symm
    · exact hg
  | createRule ht => exact ruleCreated hab hx ht
  | createVariable ht =>
    obtain ⟨v, rfl, -, -, -, rfl⟩ := createVariable_leads ht
    exact { h with ownVariables := filter_placed (beq_false_of_ne (hx.trans_ne hab.symm)) }
  | setTeamProfile ht =>
    obtain ⟨team, hteam, -, hu⟩ := setTeamProfile_leads ht
    obtain ⟨-, -, rfl⟩ := update_eq_ok.mp hu
    obtain ⟨hmem, hid⟩ := find?_eq_some hteam
    have hne : team.id ≠ a := (hid.trans hx).trans_ne hab.symm
    refine { h with team := find?_eq_of_filter ?_ }
    exact filter_replaced hn.teams hmem rfl (beq_false_of_ne hne) (beq_false_of_ne hne)
  | setRuleActive ht =>
    obtain ⟨rule, hrule, hu⟩ := setRuleActive_leads ht
    obtain ⟨-, -, rfl⟩ := update_eq_ok.mp hu
    have hne : rule.teamId ≠ a := (hx rule hrule).trans_ne hab.symm
    refine { h with rules := ?_ }
    exact filter_replaced hn.rules (find?_eq_some hrule).1 rfl (beq_false_of_ne hne)
      (beq_false_of_ne hne)
  | setVariableActive ht =>
    obtain ⟨v, hv, hu⟩ := setVariableActive_leads ht
    obtain ⟨-, -, rfl⟩ := update_eq_ok.mp hu
    have hne : v.teamId ≠ a := (hx v hv).trans_ne hab.symm
    refine { h with ownVariables := ?_ }
    exact filter_replaced hn.ownVariables (find?_eq_some hv).1 rfl (beq_false_of_ne hne)
      (beq_false_of_ne hne)
  | @deleteVariable id _ ht =>
    rw [deleteVariable_leads ht]
    refine { h with ownVariables := ?_ }
    refine (List.filter_filter ..).trans (List.filter_congr fun v hv => ?_)
    -- what is removed is of team `b`, so it was not picked before either
    cases hteam : v.teamId == a with
    | false => rfl
    | true =>
      have hne (hid : v.id = id) : False :=
        hab ((eq_of_beq hteam).symm.trans (hx v (hid ▸ find?_of_mem hn.ownVariables hv)))
      simpa using hne
  | completeMatch ht =>
    obtain ⟨c⟩ := completion_of_leads ht
    exact completed hn c ((hx c.game c.game_found).trans_ne hab.symm)
  -- these concern no team
  | createClub | createTeam | createProfile => exact hx.elim

/-- A request that concerns one team leaves every other team as it was, whether or not it is carried
out. -/
theorem served (hn : s.Numbered) (hab : a ≠ b) {x : Arrival} (hx : x.Asks (Action.Concerns s b)) :
    Untouched a s (s.served x).2 := by
  unfold Store.served Request.serve
  cases hread : x.request.action with
  | error answer => exact refl a s
  | ok action => exact turns hn hab (hx action hread) (action.turns_serve ..)

end Untouched

/-! ## What is read for a team -/

theorem get_congr {R : Type} [Table R] {what : Missing}
    (h : (t.find? id : Option R) = s.find? id) : t.get R id what = s.get R id what := by
  unfold get lookup
  rw [h]

theorem get_bind_congr {R β : Type} [Table R] {what : Missing} {r : R} {f g : R → Except Cause β}
    (ht : t.find? id = some r) (hs : s.find? id = some r) (h : f r = g r) :
    t.get R id what >>= f = s.get R id what >>= g := by
  rw [get_congr (ht.trans hs.symm)]
  refine bind_congr_ok fun r' hr' => ?_
  obtain rfl : r' = r := Option.some.inj ((get_eq_ok.mp hr').2.symm.trans hs)
  exact h

namespace SameFor

variable (h : SameFor a s t)
include h

theorem find?_game (ht : t.Numbered) {game : MatchRecord}
    (hgame : s.find? id = some game) (hteam : game.teamId = a) : t.find? id = some game := by
  obtain ⟨hmem, rfl⟩ := find?_eq_some hgame
  exact find?_of_mem ht.games ((h.games game hteam).mpr hmem)

theorem find?_rule (ht : t.Numbered) {rule : RuleRecord}
    (hrule : s.find? id = some rule) (hteam : rule.teamId = a) : t.find? id = some rule := by
  obtain ⟨hmem, rfl⟩ := find?_eq_some hrule
  have hown : rule ∈ t.ruleRecordsOf a := by
    rw [h.rules]
    exact List.mem_filter.mpr ⟨hmem, beq_iff_eq.mpr hteam⟩
  exact find?_of_mem ht.rules (List.mem_filter.mp hown).1

theorem rulesOf_eq : t.rulesOf a = s.rulesOf a := by
  unfold rulesOf
  rw [h.rules]
  refine mapM_congr fun r hr => ?_
  unfold Store.rule
  rw [h.conditions r hr]

theorem registryOf_eq : t.registryOf a = s.registryOf a := by
  unfold registryOf
  rw [h.ownVariables]

theorem playerFacts_eq {team : TeamRecord} (hid : team.id = a) (form : FactsForm) :
    t.playerFacts team form = s.playerFacts team form := by
  unfold playerFacts
  rw [hid, h.roster]

theorem profile_eq : t.profile = s.profile := by
  funext r type
  unfold Store.profile profileRulesOf
  rw [h.profileRules]

theorem scoringProfiles_eq (team : TeamRecord) :
    t.scoringProfiles team = s.scoringProfiles team := by
  unfold scoringProfiles teamDefault? clubDefault?
  rw [h.profiles, h.profile_eq]

theorem rulesUnder_eq (team : TeamRecord) (rules : List Rule) (profileId : Option Int) :
    t.rulesUnder team rules profileId = s.rulesUnder team rules profileId := by
  have hfind (n : Int) : (t.find? n : Option ProfileRecord) = s.find? n :=
    congrArg (List.find? fun p : ProfileRecord => p.id == n) h.profiles
  unfold rulesUnder
  rw [h.profile_eq]
  cases profileId with
  | none => rfl
  | some n =>
    dsimp only
    rw [get_congr (hfind n)]

theorem ledger_eq {team : TeamRecord} (hid : team.id = a) (form : CompletionForm)
    (withAutomatic : Bool) :
    t.completionLedger team form withAutomatic = s.completionLedger team form withAutomatic := by
  unfold completionLedger
  rw [h.playerFacts_eq hid, hid, h.roster, h.rules, h.rulesOf_eq, h.scoringProfiles_eq,
    h.registryOf_eq]

/-! ### Trying out -/

theorem previewMatch_eq (hs : s.Reachable) (ht : t.Reachable) {game : MatchRecord}
    (hgame : s.find? id = some game) (hteam : game.teamId = a) (form : FactsForm)
    (profileId : Option Int) : t.previewMatch id form profileId = s.previewMatch id form profileId := by
  unfold previewMatch
  apply get_bind_congr (h.find?_game ht.numbered hgame hteam) hgame
  rw [hteam, get_congr h.team]
  apply bind_congr_ok
  intro team hfound
  have hid : team.id = a := (find?_eq_some (get_eq_ok.mp hfound).2).2
  rw [hid, h.rulesOf_eq, h.registryOf_eq]
  apply bind_congr_ok
  intro rules _
  rw [h.rulesUnder_eq]
  apply bind_congr_ok
  intro rules' _
  rw [h.playerFacts_eq hid]
  apply bind_congr_ok
  intro players _
  apply bind_congr_ok
  intro awards _
  rw [mapM_paid ht.configured, mapM_paid hs.configured]

theorem previewRule_eq (hs : s.Reachable) (ht : t.Reachable) {rule : RuleRecord}
    (hrule : s.find? id = some rule) (hteam : rule.teamId = a) (form : FactsForm) :
    t.previewRule id form = s.previewRule id form := by
  have hown : rule ∈ s.ruleRecordsOf a :=
    List.mem_filter.mpr ⟨(find?_eq_some hrule).1, beq_iff_eq.mpr hteam⟩
  unfold previewRule
  apply get_bind_congr (h.find?_rule ht.numbered hrule hteam) hrule
  rw [hteam, get_congr h.team]
  apply bind_congr_ok
  intro team hfound
  have hid : team.id = a := (find?_eq_some (get_eq_ok.mp hfound).2).2
  unfold Store.rule
  rw [hid, h.conditions _ hown, h.registryOf_eq]
  apply bind_congr_ok
  intro judged _
  rw [h.playerFacts_eq hid]
  apply bind_congr_ok
  intro players _
  apply bind_congr_ok
  intro awards _
  rw [mapM_paid ht.configured, mapM_paid hs.configured]

end SameFor

end Store

/-! ## Answers about a team -/

def Action.LooksAt (s : Store) (a : Int) : Action → Prop
  | .showMatch id | .showLedger id _ | .listAssignments id | .previewMatch id _ _ =>
    ∃ g : MatchRecord, s.find? id = some g ∧ g.teamId = a
  | .previewRule id _ => ∃ r : RuleRecord, s.find? id = some r ∧ r.teamId = a
  | _ => False

theorem Action.answer_ofQuery {policy : Policy} {isRefused : Bool} {s t : Store} {q : Action}
    {shown shown' : Except Cause Value} (hs : q.run policy isRefused s = Outcome.ofQuery s shown)
    (ht : q.run policy isRefused t = Outcome.ofQuery t shown') (h : shown' = shown) :
    (q.serve policy isRefused t).1 = (q.serve policy isRefused s).1 := by
  unfold serve
  rw [hs, ht, h]
  cases shown <;> rfl

theorem Action.answer_ofQuery? {policy : Policy} {isRefused : Bool} {s t : Store} {q : Action}
    {shown shown' : Except Cause (Option Value)}
    (hs : q.run policy isRefused s = Outcome.ofQuery? s shown)
    (ht : q.run policy isRefused t = Outcome.ofQuery? t shown') (h : shown' = shown) :
    (q.serve policy isRefused t).1 = (q.serve policy isRefused s).1 := by
  unfold serve
  rw [hs, ht, h]
  cases shown with
  | error cause => rfl
  | ok v => cases v <;> rfl

namespace Store

variable {s t : Store} {a b id : Int} {form : CompletionForm} {withAutomatic : Bool}

namespace Untouched

variable (h : Untouched a s t) (ht : t.Reachable) {game : MatchRecord}
  (hgame : s.find? id = some game) (hteam : game.teamId = a)
include h ht hgame hteam

theorem showMatch_eq : t.showMatch id = s.showMatch id := by
  have hmem := (find?_eq_some hgame).1
  unfold showMatch
  apply get_bind_congr (h.find?_game ht.numbered hgame hteam) hgame
  unfold scoredMatchView? pointsOf? ledgerOf
  rw [h.stats game hmem hteam, h.entries game hmem hteam]

theorem showLedger_eq (pointType : Option PointType) :
    t.showLedger id pointType = s.showLedger id pointType := by
  unfold showLedger
  apply get_bind_congr (h.find?_game ht.numbered hgame hteam) hgame
  unfold ledgerOf
  rw [h.entries game (find?_eq_some hgame).1 hteam]

theorem editableAssignments_eq : t.editableAssignments id = s.editableAssignments id := by
  unfold editableAssignments
  apply get_bind_congr (h.find?_game ht.numbered hgame hteam) hgame
  rw [h.entries game (find?_eq_some hgame).1 hteam]

end Untouched

theorem Untouched.answer_eq (h : Untouched a s t) (hs : s.Reachable) (ht : t.Reachable) {y : Arrival}
    (hy : y.Asks (Action.LooksAt s a)) : (t.served y).1 = (s.served y).1 := by
  unfold Store.served Request.serve
  cases hread : y.request.action with
  | error answer => rfl
  | ok q =>
    have hq := hy q hread
    cases q with
    | showMatch id =>
      obtain ⟨game, hgame, hteam⟩ := hq
      exact Action.answer_ofQuery? rfl rfl (h.showMatch_eq ht hgame hteam)
    | showLedger id pointType =>
      obtain ⟨game, hgame, hteam⟩ := hq
      exact Action.answer_ofQuery? rfl rfl (h.showLedger_eq ht hgame hteam pointType)
    | listAssignments id =>
      obtain ⟨game, hgame, hteam⟩ := hq
      exact Action.answer_ofQuery rfl rfl
        (congrArg _ (h.editableAssignments_eq ht hgame hteam))
    | previewMatch id profileId form =>
      obtain ⟨game, hgame, hteam⟩ := hq
      exact Action.answer_ofQuery rfl rfl
        (congrArg _ (h.previewMatch_eq hs ht hgame hteam form profileId))
    | previewRule id form =>
      obtain ⟨rule, hrule, hteam⟩ := hq
      exact Action.answer_ofQuery rfl rfl
        (congrArg _ (h.previewRule_eq hs ht hrule hteam form))
    | _ => exact hq.elim

end Store

end ClubPoints
