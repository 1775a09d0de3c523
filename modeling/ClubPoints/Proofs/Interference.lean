import ClubPoints.Proofs.Completable
import ClubPoints.Proofs.OtherTeams

/-!
# Teams do not interfere

What concerns another team changes nothing of what completions of a team's matches write but the
numbers of the rows (`ScoredAlike.after`). Numbers are all that the teams share; as long as some are
left, the same completions are carried out (`ScoredAlike.answeredAlike`).
-/

namespace ClubPoints

open Form

namespace Store

variable {s t : Store} {a id : Int} {form : CompletionForm} {withAutomatic : Bool}

/-! ## Scores up to numbers -/

structure ScoredAlike (a : Int) (s t : Store) : Prop extends SameFor a s t where
  stats : ∀ g ∈ s.games, g.teamId = a → ((t.statsOf g.id).map fun r => { r with id := 0 }).Perm
    ((s.statsOf g.id).map fun r => { r with id := 0 })
  entries : ∀ g ∈ s.games, g.teamId = a → ((t.entriesOf g.id).map fun e => { e with id := 0 }).Perm
    ((s.entriesOf g.id).map fun e => { e with id := 0 })

theorem Untouched.scoredAlike (h : Untouched a s t) : ScoredAlike a s t where
  toSameFor := h.toSameFor
  stats g hg hteam := by rw [h.stats g hg hteam]
  entries g hg hteam := by rw [h.entries g hg hteam]

namespace SameFor

variable {s' : Store} (h : SameFor a s t) (c : Completion s id form withAutomatic s')
  (hgame : c.game.teamId = a)
include h c hgame

theorem game_found (ht : t.Reachable) : t.find? id = some c.game :=
  h.find?_game ht.numbered c.game_found hgame

theorem team_found : t.find? c.game.teamId = some c.team := by
  have hteam := c.team_found
  rw [hgame] at hteam ⊢
  exact h.team.trans hteam

theorem ledger_made : t.completionLedger c.team form withAutomatic = .ok c.rows := by
  have hid : c.team.id = a := (find?_eq_some c.team_found).2.trans hgame
  exact (h.ledger_eq hid ..).trans c.ledger

end SameFor

namespace ScoredAlike

variable {s' t' : Store} (h : ScoredAlike a s t) (ht : t.Reachable)
  (c : Completion s id form withAutomatic s') (c' : Completion t id form withAutomatic t')
  (hgame : c.game.teamId = a)
include h ht c c' hgame

theorem game_eq : c'.game = c.game :=
  Option.some.inj (c'.game_found.symm.trans (h.game_found c hgame ht))

theorem rows_eq : c'.rows = c.rows := by
  have hteam : c'.team = c.team := by
    have hfound := c'.team_found
    rw [h.game_eq ht c c' hgame, h.team_found c hgame] at hfound
    exact (Option.some.inj hfound).symm
  have hledger := c'.ledger
  rw [hteam, h.ledger_made c hgame] at hledger
  exact (Except.ok.inj hledger).symm

theorem completed (hs : s.Reachable) : ScoredAlike a s' t' := by
  have hgames (g : MatchRecord) (hteam : g.teamId = a) : g ∈ t'.games ↔ g ∈ s'.games := by
    rw [c'.mem_games, c.mem_games, h.games g hteam, h.game_eq ht c c' hgame]
  have hother {g : MatchRecord} (hg : g ∈ s'.games) (hid : g.id ≠ id) : g ∈ s.games := by
    rcases c.mem_games.mp hg with rfl | ⟨hg, -⟩
    · exact absurd c.game_id hid
    · exact hg
  have hsame : SameFor a s' t' := by
    have hframe := h.toSameFor
    rw [c.frame, c'.frame]
    exact { hframe with games := hgames }
  refine { hsame with stats := fun g hg hteam => ?_, entries := fun g hg hteam => ?_ }
  · by_cases hid : g.id = id
    · rw [hid]
      exact c'.statsOf_perm.trans c.statsOf_perm.symm
    · rw [c'.agree.statsOf_eq hid, c.agree.statsOf_eq hid]
      exact h.stats g (hother hg hid) hteam
  · by_cases hid : g.id = id
    · have hrows := c'.entriesOf_perm ht.configured
      rw [h.rows_eq ht c c' hgame] at hrows
      rw [hid]
      exact hrows.trans (c.entriesOf_perm hs.configured).symm
    · rw [c'.agree.entriesOf_eq hid, c.agree.entriesOf_eq hid]
      exact h.entries g (hother hg hid) hteam

end ScoredAlike

theorem SameFor.exists_completion {s' : Store} (h : SameFor a s t)
    (c : Completion s id form withAutomatic s') (hgame : c.game.teamId = a) (ht : t.Reachable)
    (hs : s.Reachable) (hstats : HasRoom StatRecord t form.facts.stats.length)
    (hentries : HasRoom EntryRecord t c.rows.length) :
    ∃ t', Nonempty (Completion t id form withAutomatic t') :=
  Store.exists_completion ht (h.game_found c hgame ht) (h.team_found c hgame)
    (h.ledger_made c hgame) (c.writable hs.configured) hstats hentries

end Store

/-! ## Requests that complete a team's matches -/

def Action.Completes (s : Store) (a : Int) : Action → Prop
  | .completeMatch id _ => ∃ g : MatchRecord, s.find? id = some g ∧ g.teamId = a
  | _ => False

theorem Action.Completes.mono {s t : Store} {a : Int} {action : Action}
    (h : action.Completes s a) (hfound : ∀ (id : Int) (g : MatchRecord), s.find? id = some g →
      g.teamId = a → ∃ g' : MatchRecord, t.find? id = some g' ∧ g'.teamId = a) :
    action.Completes t a := by
  cases action with
  | completeMatch id form =>
    obtain ⟨g, hg, hteam⟩ := h
    exact hfound id g hg hteam
  | _ => exact h.elim

namespace Store

variable {s t : Store} {a b id : Int} {form : CompletionForm} {y : Arrival}

theorem served_unread {answer : Answer} (h : y.request.action = .error answer) :
    s.served y = (if y.request.method = .head then answer.bare else answer, s) := by
  simp only [Store.served, Request.serve, h]

theorem game_served (hs : s.Reachable) {g : MatchRecord} (hg : s.find? id = some g) :
    ∃ g' : MatchRecord, (s.served y).2.find? id = some g' ∧ g'.teamId = g.teamId := by
  have hkept : Kept (fun x => (x.id, x.teamId)) s.games (s.served y).2.games := by
    rcases s.served_cases y with hsame | ⟨_, -, ht⟩
    · rw [hsame]
      exact .refl
    · rcases Grows.or_completed hs.numbered ht with hgrows | ⟨_, _, -, ⟨c⟩⟩
      · intro x hx
        obtain ⟨x', hx', hsame⟩ := hgrows.games x hx
        simp only [Prod.mk.injEq] at hsame
        exact ⟨x', hx', Prod.ext hsame.1 hsame.2.1⟩
      · exact c.games_kept hs.numbered
  obtain ⟨hmem, rfl⟩ := find?_eq_some hg
  obtain ⟨g', hmem', hsame⟩ := hkept g hmem
  have hid : Table.id g' = Table.id g := congrArg Prod.fst hsame
  exact ⟨g', hid ▸ find?_of_mem (hs.served y).numbered.games hmem', congrArg Prod.snd hsame⟩

theorem completes_served {z : Arrival} (hs : s.Reachable) (hz : z.Asks (Action.Completes s a)) :
    z.Asks (Action.Completes (s.served y).2 a) := by
  intro action haction
  refine (hz action haction).mono fun id g hg hteam => ?_
  obtain ⟨g', hg', hsame⟩ := game_served (y := y) hs hg
  exact ⟨g', hg', hsame.trans hteam⟩

theorem completes_cases (hy : y.Asks (Action.Completes s a)) :
    (∃ answer, y.request.action = .error answer) ∨ ∃ id form,
      y.request.action = .ok (.completeMatch id form) ∧
        ∃ g : MatchRecord, s.find? id = some g ∧ g.teamId = a := by
  cases haction : y.request.action with
  | error answer => exact .inl ⟨answer, rfl⟩
  | ok action =>
    have hcompletes := hy action haction
    cases action with
    | completeMatch id form => exact .inr ⟨id, form, rfl, hcompletes⟩
    | _ => exact hcompletes.elim

namespace SameFor

variable (h : SameFor a s t)
include h

theorem symm : SameFor a t s where
  team := h.team.symm
  games g hteam := (h.games g hteam).symm
  roster := h.roster.symm
  rules := h.rules.symm
  conditions r hr := (h.conditions r (h.rules ▸ hr)).symm
  ownVariables := h.ownVariables.symm
  profiles := h.profiles.symm
  profileRules := h.profileRules.symm

theorem completes (ht : t.Reachable) (hy : y.Asks (Action.Completes s a)) :
    y.Asks (Action.Completes t a) := fun action haction =>
  (hy action haction).mono fun _ g hg hteam => ⟨g, h.find?_game ht.numbered hg hteam, hteam⟩

end SameFor

/-! ## Numbers that are left -/

def RoomFor (s : Store) (y : Arrival) : Prop :=
  ∀ id form, y.request.action = .ok (.completeMatch id form) →
    HasRoom StatRecord s form.facts.stats.length ∧
    ∀ (game : MatchRecord) (team : TeamRecord) rows, s.find? id = some game →
      s.find? game.teamId = some team →
      s.completionLedger team form y.policy.keepsAutomatic = .ok rows →
        HasRoom EntryRecord s rows.length

theorem RoomFor.of_completion {g : MatchRecord}
    (hread : y.request.action = .ok (.completeMatch id form)) (hg : s.find? id = some g)
    (hstats : HasRoom StatRecord s form.facts.stats.length)
    (hentries : (s.find? g.teamId : Option TeamRecord).all (fun team =>
      (s.completionLedger team form y.policy.keepsAutomatic).toOption.all fun rows =>
        fitsWord (s.entries.length + (rows.length : Int))) = true) : s.RoomFor y := by
  intro id' form' hread'
  obtain ⟨rfl, rfl⟩ : id' = id ∧ form' = form := by
    simpa using hread'.symm.trans hread
  refine ⟨hstats, fun game team rows hgame hteam hrows => ?_⟩
  rw [← Option.some.inj (hgame.symm.trans hg), hteam] at hentries
  rw [Option.all_some, hrows, Except.toOption, Option.all_some] at hentries
  exact hentries

def RoomAlong : Store → List Arrival → Prop
  | _, [] => True
  | s, y :: later => s.RoomFor y ∧ (s.served y).2.RoomAlong later

/-- Requests are carried out in both stores or in neither, one after another. -/
def AnsweredAlike : Store → Store → List Arrival → Prop
  | _, _, [] => True
  | s, t, y :: later =>
    (t.served y).1.isSuccess = (s.served y).1.isSuccess ∧
      AnsweredAlike (s.served y).2 (t.served y).2 later

theorem SameFor.success (h : SameFor a s t) (hs : s.Reachable) (ht : t.Reachable)
    (hy : y.Asks (Action.Completes s a)) (hroom : t.RoomFor y)
    (hsuccess : (s.served y).1.isSuccess = true) : (t.served y).1.isSuccess = true := by
  rcases completes_cases hy with ⟨answer, hread⟩ | ⟨id, form, hread, g, hg, hteam⟩
  · rw [served_unread hread] at hsuccess ⊢
    exact hsuccess
  rcases completion_cases hs hread with ⟨hfailed, -⟩ | ⟨-, hrefused, ⟨c⟩⟩
  · exact absurd (hfailed.symm.trans hsuccess) Bool.false_ne_true
  cases hg.symm.trans c.game_found
  obtain ⟨hstats, hentries⟩ := hroom id form hread
  obtain ⟨t', ⟨c'⟩⟩ := h.exists_completion c hteam ht hs hstats
    (hentries c.game c.team c.rows (h.game_found c hteam ht) (h.team_found c hteam)
      (h.ledger_made c hteam))
  obtain ⟨v, hv⟩ := c'.shown ht.configured
  rw [served_of_completion hread hrefused c' hv]
  rfl

/-! ## Completions one after another -/

namespace ScoredAlike

theorem served (h : ScoredAlike a s t) (hs : s.Reachable) (ht : t.Reachable)
    (hy : y.Asks (Action.Completes s a))
    (halike : (t.served y).1.isSuccess = (s.served y).1.isSuccess) :
    ScoredAlike a (s.served y).2 (t.served y).2 := by
  rcases completes_cases hy with ⟨answer, hread⟩ | ⟨id, form, hread, g, hg, hteam⟩
  · rw [served_unread hread, served_unread hread]
    exact h
  rcases completion_cases hs hread with ⟨hfailed, hsame⟩ | ⟨hsuccess, -, ⟨c⟩⟩
  · rw [hsame, served_of_failure ht (halike.trans hfailed)]
    exact h
  rcases completion_cases ht hread with ⟨hfailed, -⟩ | ⟨-, -, ⟨c'⟩⟩
  · exact absurd (hfailed.symm.trans (halike.trans hsuccess)) Bool.false_ne_true
  cases hg.symm.trans c.game_found
  exact h.completed ht c c' hteam hs

theorem after (h : ScoredAlike a s t) (hs : s.Reachable) (ht : t.Reachable) {later : List Arrival}
    (hlater : ∀ y ∈ later, y.Asks (Action.Completes s a)) (halike : AnsweredAlike s t later) :
    ScoredAlike a (s.after later) (t.after later) := by
  induction later generalizing s t with
  | nil => exact h
  | cons y later ih =>
    obtain ⟨hy, hlater⟩ := List.forall_mem_cons.mp hlater
    obtain ⟨hfirst, hrest⟩ := halike
    exact ih (h.served hs ht hy hfirst) (hs.served y) (ht.served y)
      (fun z hz => completes_served hs (hlater z hz)) hrest

/-- While numbers are left in both stores, they carry out the same completions. -/
theorem answeredAlike (h : ScoredAlike a s t) (hs : s.Reachable) (ht : t.Reachable)
    {later : List Arrival} (hlater : ∀ y ∈ later, y.Asks (Action.Completes s a))
    (hroom : s.RoomAlong later) (hroom' : t.RoomAlong later) : AnsweredAlike s t later := by
  induction later generalizing s t with
  | nil => exact trivial
  | cons y later ih =>
    obtain ⟨hy, hlater⟩ := List.forall_mem_cons.mp hlater
    have hfirst : (t.served y).1.isSuccess = (s.served y).1.isSuccess := by
      rw [Bool.eq_iff_iff]
      exact ⟨h.symm.success ht hs (h.completes ht hy) hroom.1, h.success hs ht hy hroom'.1⟩
    exact ⟨hfirst, ih (h.served hs ht hy hfirst) (hs.served y) (ht.served y)
      (fun z hz => completes_served hs (hlater z hz)) hroom.2 hroom'.2⟩

end ScoredAlike

/-- Whatever becomes of a request that concerns one team, what is asked about another team right
after it is answered as without it, and what later completions write for that team is the same up
to the numbers of the rows. Numbers are what the teams do share, so that the same completions are
carried out is said for as long as some are left. -/
theorem teams_do_not_interfere (hs : s.Reachable) (hab : a ≠ b) {x : Arrival}
    (hx : x.Asks (Action.Concerns s b)) :
    (∀ y : Arrival, y.Asks (Action.LooksAt s a) → ((s.served x).2.served y).1 = (s.served y).1) ∧
    ∀ later : List Arrival, (∀ y ∈ later, y.Asks (Action.Completes s a)) →
      (AnsweredAlike s (s.served x).2 later →
        ScoredAlike a (s.after later) ((s.served x).2.after later)) ∧
      (s.RoomAlong later → (s.served x).2.RoomAlong later →
        AnsweredAlike s (s.served x).2 later) := by
  have h : Untouched a s (s.served x).2 := .served hs.numbered hab hx
  have ht := hs.served x
  refine ⟨fun y hy => h.answer_eq hs ht hy, fun later hlater => ⟨fun halike => ?_, ?_⟩⟩
  · exact h.scoredAlike.after hs ht hlater halike
  · exact h.scoredAlike.answeredAlike hs ht hlater

def neighbours : List Arrival := season ++ [
  .posting "/teams/" (TeamForm.document { name := "Second", clubId := 1 }),
  .posting "/players/" (PlayerForm.document { name := "Bea", position := .defender, teamId := 2 }),
  .posting "/matches/" (FixtureForm.document { teamId := 2, opponent := "Town" })]

def otherFacts : CompletionForm where
  facts := { goalsFor := 1, stats := [{ playerId := 2 }] }

def otherMatch : Arrival := .posting "/matches/3/complete" otherFacts.document

def firstMatch : Arrival where
  request := { method := .get, path := "/matches/1" }

/-- The second team's match takes a number that the first team's next statistics get otherwise. -/
theorem teams_do_not_interfere_neighbours :
    (((after {} neighbours).served otherMatch).2.served firstMatch).1 =
      ((after {} neighbours).served firstMatch).1 ∧
    ScoredAlike 1 ((after {} neighbours).after [again (captained 1 2)])
      (((after {} neighbours).served otherMatch).2.after [again (captained 1 2)]) ∧
    (((after {} neighbours).after [again (captained 1 2)]).statsOf 1).map StatRecord.id = [3] ∧
    ((((after {} neighbours).served otherMatch).2.after [again (captained 1 2)]).statsOf 1).map
      StatRecord.id = [4] := by
  have hfirst : ((after {} neighbours).find? 1 : Option MatchRecord).map MatchRecord.teamId =
      some 1 := by decide +kernel
  have hother : ((after {} neighbours).find? 3 : Option MatchRecord).map MatchRecord.teamId =
      some 2 := by decide +kernel
  obtain ⟨g, hg, hteam⟩ := Option.map_eq_some_iff.mp hfirst
  have hread : otherMatch.request.action = .ok (.completeMatch 3 otherFacts) := rfl
  have hshow : firstMatch.request.action = .ok (.showMatch 1) := rfl
  have hagain : (again (captained 1 2)).request.action = .ok (.completeMatch 1 (captained 1 2)) := rfl
  have hx : otherMatch.Asks (Action.Concerns (after {} neighbours) 2) := by
    refine .of_action hread fun k hk => ?_
    rw [hk] at hother
    exact Option.some.inj hother
  have hs : (after {} neighbours).Reachable := ⟨neighbours, rfl⟩
  have hgame : ((after {} neighbours).served otherMatch).2.find? 1 = some g :=
    (Untouched.served hs.numbered (by decide : (1 : Int) ≠ 2) hx).find?_game (hs.served _).numbered
      hg hteam
  have hroom : (after {} neighbours).RoomFor (again (captained 1 2)) := by
    refine .of_completion hagain hg (by unfold HasRoom; decide +kernel) ?_
    rw [hteam]
    decide +kernel
  have hroom' : ((after {} neighbours).served otherMatch).2.RoomFor (again (captained 1 2)) := by
    refine .of_completion hagain hgame (by unfold HasRoom; decide +kernel) ?_
    rw [hteam]
    decide +kernel
  obtain ⟨hanswer, hlater⟩ := teams_do_not_interfere hs (by decide : (1 : Int) ≠ 2) hx
  obtain ⟨hscores, hsame⟩ := hlater [again (captained 1 2)]
    (List.forall_mem_singleton.mpr (.of_action hagain ⟨g, hg, hteam⟩))
  refine ⟨hanswer firstMatch (.of_action hshow ⟨g, hg, hteam⟩), ?_, by decide +kernel,
    by decide +kernel⟩
  exact hscores (hsame ⟨hroom, trivial⟩ ⟨hroom', trivial⟩)

end Store

end ClubPoints
