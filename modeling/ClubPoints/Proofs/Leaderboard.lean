import ClubPoints.Proofs.Shown
import Mathlib.Data.Finset.Card
import Mathlib.Algebra.BigOperators.Group.List.Basic

/-!
# The leaderboard

A board lists each player of the chosen teams who has entries of its type (`IsBoard`). An entry
belongs to a match of the player's team, so what is on the boards of a team is what its matches were
scored with (`leaderboard_conserved`).
-/

namespace ClubPoints

open Form View Store

/-! ## Rows by owner -/

section

variable {α κ : Type} [DecidableEq κ]

/-- Rows are the same whether they are listed owner by owner or as they come. -/
theorem perm_flatMap_filter (owner : α → κ) {owners : List κ} (hn : owners.Nodup) (xs : List α) :
    (owners.flatMap fun k => xs.filter fun x => owner x = k).Perm
      (xs.filter fun x => owner x ∈ owners) := by
  induction owners with
  | nil => simp
  | cons k rest ih =>
    obtain ⟨hk, hrest⟩ := List.nodup_cons.mp hn
    have hfirst : (xs.filter fun x => owner x ∈ k :: rest).filter (fun x => owner x = k) =
        xs.filter fun x => owner x = k := by
      rw [List.filter_filter]
      refine List.filter_congr fun x _ => ?_
      by_cases hx : owner x = k <;> simp [hx]
    have hothers : (xs.filter fun x => owner x ∈ k :: rest).filter (fun x => !owner x = k) =
        xs.filter fun x => owner x ∈ rest := by
      rw [List.filter_filter]
      refine List.filter_congr fun x _ => ?_
      by_cases hx : owner x = k
      · simp [hx, hk]
      · simp [hx]
    rw [List.flatMap_cons]
    refine ((ih hrest).append_left _).trans ?_
    rw [← hfirst, ← hothers]
    exact List.filter_append_perm _ _

theorem sum_by_owner (owner : α → κ) (value : α → Int) {owners : List κ} (hn : owners.Nodup)
    (xs : List α) :
    (owners.map fun k => ((xs.filter fun x => owner x = k).map value).sum).sum =
      ((xs.filter fun x => owner x ∈ owners).map value).sum := by
  rw [← ((perm_flatMap_filter owner hn xs).map value).sum_eq, List.map_flatMap, List.flatMap,
    List.sum_flatten, List.map_map]
  rfl

theorem nodup_eraseDups (xs : List κ) : xs.eraseDups.Nodup := by
  match xs with
  | [] => simp
  | x :: rest =>
    rw [List.eraseDups_cons, List.nodup_cons]
    exact ⟨by simp, nodup_eraseDups _⟩
termination_by xs.length
decreasing_by exact Nat.lt_succ_of_le (List.length_filter_le ..)

theorem length_eraseDups (xs : List κ) : xs.eraseDups.length = xs.toFinset.card := by
  rw [← List.toFinset_card_of_nodup (nodup_eraseDups xs)]
  congr 1
  ext x
  simp

theorem mapM_eq_map {β : Type} {f : α → Option β} {g : α → β} {xs : List α}
    (h : ∀ x ∈ xs, f x = some (g x)) : xs.mapM f = some (xs.map g) := by
  induction xs with
  | nil => rfl
  | cons x rest ih =>
    obtain ⟨hx, hrest⟩ := List.forall_mem_cons.mp h
    rw [List.mapM_cons, hx, ih hrest]
    rfl

end

/-! ## Places -/

def View.StandingView.score (v : StandingView) : Int × Int × Int :=
  (v.playerId, v.total, v.matchesPlayed)

theorem Tallied.sortsBy_before :
    SortsBy Tallied.before fun x => toLex (-x.total, x.player.name) :=
  SortsBy.lex (isLE_compareOn _)

def placesOf (board : List Tallied) : List StandingView :=
  ((board.mergeSort Tallied.before).zipIdx 1).map fun (t, rank) => t.view rank

section

variable (board : List Tallied)

theorem map_placesOf {β : Type} (f : StandingView → β) (g : Tallied → β)
    (h : ∀ t rank, f (t.view rank) = g t) :
    (placesOf board).map f = (board.mergeSort Tallied.before).map g := by
  have hfirst : ∀ (ts : List Tallied) (n : Nat),
      ((ts.zipIdx n).map fun (t, rank) => t.view rank).map f = ts.map g := by
    intro ts n
    rw [List.map_map]
    conv_rhs => rw [← List.zipIdx_map_fst n ts, List.map_map]
    exact List.map_congr_left fun x _ => h x.1 x.2
  exact hfirst _ 1

theorem ranks_placesOf : (placesOf board).map StandingView.rank = upTo (placesOf board).length := by
  unfold placesOf
  rw [List.map_map, List.length_map, List.length_zipIdx]
  generalize board.mergeSort Tallied.before = ranked
  calc (ranked.zipIdx 1).map (fun x => (x.2 : Int))
      = ((ranked.zipIdx 1).map Prod.snd).map fun n : Nat => (n : Int) := by
        rw [List.map_map]
        rfl
    _ = ((List.range ranked.length).map fun i => 1 + i).map fun n : Nat => (n : Int) := by
        rw [List.zipIdx_map_snd, List.range'_eq_map_range]
    _ = upTo ranked.length := by
        rw [List.map_map]
        exact List.map_congr_left fun i _ => by simp [add_comm]

theorem pairwise_placesOf : (placesOf board).Pairwise fun a b =>
    b.total < a.total ∨ a.total = b.total ∧ a.playerName ≤ b.playerName := by
  have hsorted := Tallied.sortsBy_before.pairwise_mergeSort board
  have hkeys := map_placesOf board (fun v => (v.total, v.playerName))
    (fun t => (t.total, t.player.name)) fun _ _ => rfl
  suffices h : ((placesOf board).map fun v => (v.total, v.playerName)).Pairwise fun a b =>
      b.1 < a.1 ∨ a.1 = b.1 ∧ a.2 ≤ b.2 from List.pairwise_map.mp h
  rw [hkeys, List.pairwise_map]
  refine hsorted.imp fun {a b} hab => ?_
  rcases Prod.Lex.toLex_le_toLex.mp hab with hless | ⟨hequal, hname⟩
  · exact .inl (Int.neg_lt_neg_iff.mp hless)
  · exact .inr ⟨Int.neg_inj.mp hequal, hname⟩

end

/-! ## Scorers -/

def Scorer.tallied (x : Scorer) : Tallied where
  player := x.player
  team := x.team
  total := (x.entries.map fun e => e.points.unit).sum
  matchesPlayed := (x.entries.map EntryRecord.matchId).eraseDups.length

theorem Scorer.tallied?_eq {x : Scorer} (h : ∀ e ∈ x.entries, ∃ n, e.points = .whole n) :
    x.tallied? = some x.tallied := by
  unfold tallied?
  rw [total_whole h]
  rfl

def Scorer.isChosen (clubId teamId : Option Int) (x : Scorer) : Bool :=
  (clubId.all fun id => x.team.clubId == id) && teamId.all fun id => x.team.id == id

theorem Scorer.isChosen_iff {clubId teamId : Option Int} {x : Scorer} :
    x.isChosen clubId teamId = true ↔
      (∀ n ∈ clubId, x.team.clubId = n) ∧ ∀ n ∈ teamId, x.team.id = n := by
  simp [isChosen, Option.all_eq_true]

namespace Store

variable {s : Store} {pointType : PointType} {clubId teamId : Option Int}

def scorers (s : Store) (pointType : PointType) : List Scorer :=
  s.players.filterMap (s.scorer? pointType)

theorem scorer?_eq_some {player : PlayerRecord} {x : Scorer} :
    s.scorer? pointType player = some x ↔
      x.player = player ∧ s.find? player.teamId = some x.team ∧
        x.entries = s.entriesFor player.id pointType ∧ x.entries ≠ [] := by
  change ((s.find? player.teamId : Option TeamRecord).bind fun team =>
    if (s.entriesFor player.id pointType).isEmpty then none
    else some { player, team, entries := s.entriesFor player.id pointType }) = some x ↔ _
  obtain ⟨player', team', entries'⟩ := x
  cases hteam : (s.find? player.teamId : Option TeamRecord) with
  | none => simp
  | some team =>
    by_cases hentries : s.entriesFor player.id pointType = []
    · simp +contextual [hentries]
    · simp only [Option.bind_some, List.isEmpty_iff, hentries, if_false, Option.some.injEq,
        Scorer.mk.injEq]
      constructor
      · rintro ⟨rfl, rfl, rfl⟩
        exact ⟨rfl, rfl, rfl, hentries⟩
      · rintro ⟨rfl, rfl, rfl, -⟩
        exact ⟨rfl, rfl, rfl⟩

theorem mem_scorers {x : Scorer} :
    x ∈ s.scorers pointType ↔ x.player ∈ s.players ∧ s.find? x.player.teamId = some x.team ∧
      x.entries = s.entriesFor x.player.id pointType ∧ x.entries ≠ [] := by
  simp only [scorers, List.mem_filterMap, scorer?_eq_some]
  constructor
  · rintro ⟨player, hplayer, rfl, hrest⟩
    exact ⟨hplayer, hrest⟩
  · rintro ⟨hplayer, hrest⟩
    exact ⟨x.player, hplayer, rfl, hrest⟩

theorem nodup_scorers (hn : s.Numbered) :
    ((s.scorers pointType).map fun x => x.player.id).Nodup := by
  refine List.pairwise_map.mpr (List.pairwise_filterMap.mpr ?_)
  refine (List.pairwise_map.mp hn.players).imp fun {a b} hab x hx y hy => ?_
  rw [(scorer?_eq_some.mp hx).1, (scorer?_eq_some.mp hy).1]
  exact hab

theorem Scored.points_whole (h : s.Scored) {x : Scorer} (hx : x ∈ s.scorers pointType) :
    ∀ e ∈ x.entries, e.points = .whole e.points.unit := by
  obtain ⟨-, -, hentries, -⟩ := mem_scorers.mp hx
  intro e he
  rw [hentries] at he
  obtain ⟨v, -, hpoints⟩ := (h.formed e (List.mem_filter.mp he).1).exists_view
  rw [hpoints, Amount.unit_whole]

/-! ## Boards -/

def board (s : Store) (pointType : PointType) (clubId teamId : Option Int) : List StandingView :=
  placesOf (((s.scorers pointType).filter (Scorer.isChosen clubId teamId)).map Scorer.tallied)

theorem checkFilter_eq (id : Option Int) :
    checkFilter id = if id.all fitsWord then .ok () else .error (.notStored .wholeTooLarge) := by
  cases id <;> rfl

theorem leaderboard_eq (h : s.Scored) (pointType : PointType) (clubId teamId : Option Int) :
    s.leaderboard pointType clubId teamId =
      if clubId.all fitsWord && teamId.all fitsWord then .ok (s.board pointType clubId teamId)
      else .error (.notStored .wholeTooLarge) := by
  have hwhole : ∀ x ∈ (s.scorers pointType).filter (Scorer.isChosen clubId teamId),
      x.tallied? = some x.tallied := fun x hx =>
    Scorer.tallied?_eq fun e he => ⟨_, h.points_whole (List.mem_filter.mp hx).1 e he⟩
  have hscorers : ((s.players.filterMap (s.scorer? pointType)).filter fun x =>
      (clubId.all fun id => x.team.clubId == id) && teamId.all fun id => x.team.id == id).mapM
        Scorer.tallied? =
      some (((s.scorers pointType).filter (Scorer.isChosen clubId teamId)).map Scorer.tallied) :=
    mapM_eq_map hwhole
  unfold leaderboard
  dsimp only
  rw [checkFilter_eq, checkFilter_eq, hscorers]
  cases clubId.all fitsWord <;> cases teamId.all fitsWord <;> rfl

/-- A player who is found with a team, and what the entries of the player add up to, in how many
matches. -/
structure IsStanding (s : Store) (pointType : PointType) (v : StandingView) : Prop where
  player : ∃ (player : PlayerRecord) (team : TeamRecord), s.find? v.playerId = some player ∧
    s.find? player.teamId = some team ∧ v.playerName = player.name ∧ v.teamId = team.id ∧
    v.teamName = team.name ∧ v.position = player.position.name
  total : ∃ points : List Int,
    (s.entriesFor v.playerId pointType).map EntryRecord.points = points.map Amount.whole ∧
      v.total = points.sum
  matchesPlayed : v.matchesPlayed =
    (((s.entriesFor v.playerId pointType).map EntryRecord.matchId).toFinset.card : Int)
  played : 1 ≤ v.matchesPlayed

/-- A ranking of just the players with entries whose team is the one that is asked for, and of the
club that is asked for. -/
structure IsBoard (s : Store) (pointType : PointType) (clubId teamId : Option Int)
    (board : List StandingView) : Prop where
  ranks : board.map StandingView.rank = upTo board.length
  order : board.Pairwise fun a b =>
    b.total < a.total ∨ a.total = b.total ∧ a.playerName ≤ b.playerName
  once : (board.map StandingView.playerId).Nodup
  listed : ∀ id, id ∈ board.map StandingView.playerId ↔
    ∃ (player : PlayerRecord) (team : TeamRecord), s.find? id = some player ∧
      s.find? player.teamId = some team ∧ (∀ n ∈ clubId, team.clubId = n) ∧
      (∀ n ∈ teamId, team.id = n) ∧ s.entriesFor id pointType ≠ []
  standing : ∀ v ∈ board, s.IsStanding pointType v

theorem mem_board {v : StandingView} (h : v ∈ s.board pointType clubId teamId) :
    ∃ x ∈ s.scorers pointType, ∃ rank, x.tallied.view rank = v := by
  obtain ⟨⟨tallied, rank⟩, hplace, rfl⟩ := List.mem_map.mp h
  have hranked := List.mem_mergeSort.mp (List.fst_mem_of_mem_zipIdx hplace)
  obtain ⟨x, hx, rfl⟩ := List.mem_map.mp hranked
  exact ⟨x, (List.mem_filter.mp hx).1, rank, rfl⟩

theorem perm_board {β : Type} (s : Store) (pointType : PointType) (clubId teamId : Option Int)
    (f : StandingView → β) (g : Tallied → β) (h : ∀ t rank, f (t.view rank) = g t) :
    ((s.board pointType clubId teamId).map f).Perm
      (((s.scorers pointType).filter (Scorer.isChosen clubId teamId)).map fun x => g x.tallied) := by
  unfold board
  rw [map_placesOf _ f g h]
  refine ((List.mergeSort_perm _ _).map g).trans ?_
  rw [List.map_map]
  exact .refl _

theorem isStanding (hn : s.Numbered) (h : s.Scored) {x : Scorer} (hx : x ∈ s.scorers pointType)
    (rank : Nat) : s.IsStanding pointType (x.tallied.view rank) := by
  obtain ⟨hplayer, hteam, hentries, hsome⟩ := mem_scorers.mp hx
  constructor
  · exact ⟨x.player, x.team, find?_of_mem hn.players hplayer, hteam, rfl, rfl, rfl, rfl⟩
  · refine ⟨x.entries.map fun e => e.points.unit, ?_, rfl⟩
    change (s.entriesFor x.player.id pointType).map EntryRecord.points = _
    rw [← hentries, List.map_map]
    exact List.map_congr_left (h.points_whole hx)
  · change (((x.entries.map EntryRecord.matchId).eraseDups.length : Nat) : Int) =
      ((s.entriesFor x.player.id pointType).map EntryRecord.matchId).toFinset.card
    rw [length_eraseDups, hentries]
  · change (1 : Int) ≤ ((x.entries.map EntryRecord.matchId).eraseDups.length : Nat)
    obtain ⟨e, he⟩ := List.exists_mem_of_ne_nil _ hsome
    have hmem : e.matchId ∈ (x.entries.map EntryRecord.matchId).eraseDups :=
      List.mem_eraseDups.mpr (List.mem_map_of_mem he)
    have hpos := List.length_pos_of_mem hmem
    omega

theorem isBoard (hn : s.Numbered) (h : s.Scored) (pointType : PointType)
    (clubId teamId : Option Int) :
    s.IsBoard pointType clubId teamId (s.board pointType clubId teamId) := by
  have hids := s.perm_board pointType clubId teamId StandingView.playerId (fun t => t.player.id)
    fun _ _ => rfl
  constructor
  · exact ranks_placesOf _
  · exact pairwise_placesOf _
  · rw [hids.nodup_iff]
    exact (nodup_scorers hn).sublist (List.filter_sublist.map _)
  · intro id
    rw [hids.mem_iff, List.mem_map]
    constructor
    · rintro ⟨x, hx, rfl⟩
      obtain ⟨hx, hchosen⟩ := List.mem_filter.mp hx
      obtain ⟨hclub, hteam⟩ := Scorer.isChosen_iff.mp hchosen
      obtain ⟨hplayer, hfound, hentries, hsome⟩ := mem_scorers.mp hx
      exact ⟨x.player, x.team, find?_of_mem hn.players hplayer, hfound, hclub, hteam,
        hentries ▸ hsome⟩
    · rintro ⟨player, team, hplayer, hteam, hclub, hchosen, hsome⟩
      obtain ⟨hmem, rfl⟩ := find?_eq_some hplayer
      refine ⟨{ player, team, entries := s.entriesFor player.id pointType }, ?_, rfl⟩
      exact List.mem_filter.mpr
        ⟨mem_scorers.mpr ⟨hmem, hteam, rfl, hsome⟩, Scorer.isChosen_iff.mpr ⟨hclub, hchosen⟩⟩
  · intro v hv
    obtain ⟨x, hx, rank, rfl⟩ := mem_board hv
    exact isStanding hn h hx rank

/-! ## The boards of a club -/

theorem perm_club_board (hn : s.Numbered) (pointType : PointType) (clubId : Int) :
    ((s.board pointType (some clubId) none).map StandingView.score).Perm
      ((s.teams.filter fun team => team.clubId == clubId).flatMap fun team =>
        (s.board pointType none (some team.id)).map StandingView.score) := by
  have hscore (clubId teamId : Option Int) :=
    s.perm_board pointType clubId teamId StandingView.score
      (fun t => (t.player.id, t.total, (t.matchesPlayed : Int))) fun _ _ => rfl
  have hteams : ((s.teams.filter fun team => team.clubId == clubId).map TeamRecord.id).Nodup :=
    hn.teams.sublist (List.filter_sublist.map _)
  -- the scorers of the club are those whose team is one of its teams
  have hscorers : (s.scorers pointType).filter (Scorer.isChosen (some clubId) none) =
      (s.scorers pointType).filter fun x =>
        x.team.id ∈ (s.teams.filter fun team => team.clubId == clubId).map TeamRecord.id := by
    refine List.filter_congr fun x hx => Bool.eq_iff_iff.mpr ?_
    rw [Scorer.isChosen_iff, decide_eq_true_iff, List.mem_map]
    have hteam : x.team ∈ s.teams := (find?_eq_some (mem_scorers.mp hx).2.1).1
    constructor
    · rintro ⟨hclub, -⟩
      exact ⟨x.team, List.mem_filter.mpr ⟨hteam, beq_iff_eq.mpr (hclub _ rfl)⟩, rfl⟩
    · rintro ⟨team, hmem, hid⟩
      obtain ⟨hmem, hclub⟩ := List.mem_filter.mp hmem
      obtain rfl : team = x.team := List.inj_on_of_nodup_map hn.teams hmem hteam hid
      exact ⟨fun n hn => (beq_iff_eq.mp hclub).trans (Option.some.inj hn), nofun⟩
  have hteam (teamId : Int) : (s.scorers pointType).filter (fun x => x.team.id = teamId) =
      (s.scorers pointType).filter (Scorer.isChosen none (some teamId)) :=
    List.filter_congr fun x _ => by simp [Scorer.isChosen, Bool.beq_eq_decide_eq]
  refine (hscore (some clubId) none).trans ?_
  rw [hscorers]
  refine ((perm_flatMap_filter (fun x : Scorer => x.team.id) hteams _).symm.map _).trans ?_
  rw [List.flatMap_map, List.map_flatMap]
  refine List.Perm.flatMap_left _ fun team _ => ?_
  rw [hteam]
  exact (hscore none (some team.id)).symm

/-! ## The points of a team -/

def entriesOfType (s : Store) (pointType : PointType) : List EntryRecord :=
  s.entries.filter fun e => e.pointType = pointType

theorem entriesFor_eq (playerId : Int) :
    s.entriesFor playerId pointType =
      (s.entriesOfType pointType).filter fun e => e.playerId = playerId := by
  unfold entriesFor entriesOfType
  rw [List.filter_filter]
  exact List.filter_congr fun e _ => by simp [Bool.beq_eq_decide_eq]

theorem pointsOf_eq (matchId : Int) :
    s.pointsOf matchId pointType =
      (((s.entriesOfType pointType).filter fun e => e.matchId = matchId).map
        fun e => e.points.unit).sum := by
  have hledger : (s.ledgerOf matchId (some pointType)).Perm
      ((s.entriesOfType pointType).filter fun e => e.matchId = matchId) := by
    unfold ledgerOf entriesOf entriesOfType
    refine (List.mergeSort_perm _ _).trans ?_
    rw [List.filter_filter, List.filter_filter]
    refine List.Perm.of_eq (List.filter_congr fun e _ => ?_)
    simp [Bool.beq_eq_decide_eq, Bool.and_comm]
  exact (hledger.map _).sum_eq

/-- Players who have no entries of the type add nothing to the board of their team. -/
theorem sum_scorers (hn : s.Numbered) {team : TeamRecord} (hteam : team ∈ s.teams) :
    (((s.scorers pointType).filter (Scorer.isChosen none (some team.id))).map
      fun x => x.tallied.total).sum =
      ((s.rosterOf team.id).map fun p =>
        ((s.entriesFor p.id pointType).map fun e => e.points.unit).sum).sum := by
  unfold scorers rosterOf
  -- player by player: on the board of the team with entries, and else with nothing to add
  induction s.players with
  | nil => rfl
  | cons p rest ih =>
    by_cases hp : p.teamId = team.id
    · have hfound : s.find? p.teamId = some team := hp ▸ find?_of_mem hn.teams hteam
      rw [List.filter_cons_of_pos (a := p) (by simp [hp]), List.map_cons, List.sum_cons, ← ih]
      by_cases hentries : s.entriesFor p.id pointType = []
      · have hnone : s.scorer? pointType p = none := by
          refine Option.eq_none_iff_forall_ne_some.mpr fun x hx => ?_
          obtain ⟨-, -, hx, hsome⟩ := scorer?_eq_some.mp hx
          exact hsome (hx.trans hentries)
        rw [List.filterMap_cons_none hnone, hentries]
        simp
      · have hsome := scorer?_eq_some (x := { player := p, team, entries := _ }).mpr
          ⟨rfl, hfound, rfl, hentries⟩
        rw [List.filterMap_cons_some hsome, List.filter_cons_of_pos (by simp [Scorer.isChosen]),
          List.map_cons, List.sum_cons]
        rfl
    · rw [List.filter_cons_of_neg (a := p) (by simp [hp]), ← ih]
      cases hx : s.scorer? pointType p with
      | none => rw [List.filterMap_cons_none hx]
      | some x =>
        obtain ⟨-, hfound, -⟩ := scorer?_eq_some.mp hx
        have hother : x.team.id ≠ team.id := fun h => hp ((find?_eq_some hfound).2.symm.trans h)
        rw [List.filterMap_cons_some hx, List.filter_cons_of_neg (by simp [Scorer.isChosen, hother])]

theorem player_iff_game (hn : s.Numbered) (h : s.Scored) {e : EntryRecord} (he : e ∈ s.entries)
    (teamId : Int) :
    e.playerId ∈ (s.rosterOf teamId).map PlayerRecord.id ↔
      e.matchId ∈ (s.games.filter fun g => g.teamId == teamId).map MatchRecord.id := by
  obtain ⟨game, hid, ⟨hgame, -, player, hplayer, hpid, hteam⟩, -⟩ := h.entries e he
  rw [List.mem_map, List.mem_map]
  constructor
  · rintro ⟨p, hp, hpe⟩
    obtain ⟨hp, hpteam⟩ := List.mem_filter.mp hp
    obtain rfl := List.inj_on_of_nodup_map hn.players hp hplayer (hpe.trans hpid.symm)
    exact ⟨game, List.mem_filter.mpr ⟨hgame, hteam ▸ hpteam⟩, hid⟩
  · rintro ⟨g, hg, hge⟩
    obtain ⟨hg, hgteam⟩ := List.mem_filter.mp hg
    obtain rfl := List.inj_on_of_nodup_map hn.games hg hgame (hge.trans hid.symm)
    exact ⟨player, List.mem_filter.mpr ⟨hplayer, hteam ▸ hgteam⟩, hpid⟩

theorem sum_team_board (hn : s.Numbered) (h : s.Scored) {team : TeamRecord}
    (hteam : team ∈ s.teams) (pointType : PointType) :
    ((s.board pointType none (some team.id)).map StandingView.total).sum =
      ((s.games.filter fun g => g.teamId == team.id).map fun g => s.pointsOf g.id pointType).sum := by
  have hplayers : ((s.rosterOf team.id).map PlayerRecord.id).Nodup :=
    hn.players.sublist (List.filter_sublist.map _)
  have hgames : ((s.games.filter fun g => g.teamId == team.id).map MatchRecord.id).Nodup :=
    hn.games.sublist (List.filter_sublist.map _)
  have hsame : (s.entriesOfType pointType).filter (fun e =>
      e.playerId ∈ (s.rosterOf team.id).map PlayerRecord.id) =
      (s.entriesOfType pointType).filter fun e =>
        e.matchId ∈ (s.games.filter fun g => g.teamId == team.id).map MatchRecord.id :=
    List.filter_congr fun e he =>
      decide_eq_decide.mpr (player_iff_game hn h (List.mem_filter.mp he).1 team.id)
  have hboard := (s.perm_board pointType none (some team.id) StandingView.total Tallied.total
    fun _ _ => rfl).sum_eq
  rw [hboard, sum_scorers hn hteam]
  simp only [entriesFor_eq, pointsOf_eq]
  have hby_player := sum_by_owner EntryRecord.playerId (fun e => e.points.unit) hplayers
    (s.entriesOfType pointType)
  have hby_game := sum_by_owner EntryRecord.matchId (fun e => e.points.unit) hgames
    (s.entriesOfType pointType)
  -- both sums run over the same entries, once by player and once by match
  rw [List.map_map] at hby_player hby_game
  rw [hsame] at hby_player
  exact hby_player.trans hby_game.symm

/-! ## Every leaderboard -/

theorem Reachable.team_board (h : s.Reachable) {team : TeamRecord} (hteam : team ∈ s.teams)
    (pointType : PointType) :
    s.leaderboard pointType none (some team.id) = .ok (s.board pointType none (some team.id)) := by
  have hfits : fitsWord team.id = true := h.inTurn.teams.fits_id team hteam
  rw [leaderboard_eq h.scored]
  simp [hfits]

/-- In every store that requests lead to, a leaderboard ranks just the players with entries, unless
it is asked for by a number that does not fit a word. The totals of a team are what its matches are
shown with, and the board of a club, which lists no player twice, has the scores of its teams. -/
theorem leaderboard_conserved (s : Store) (h : s.Reachable) (pointType : PointType) :
    (∀ clubId teamId : Option Int,
      if clubId.all fitsWord && teamId.all fitsWord then
        ∃ board, s.leaderboard pointType clubId teamId = .ok board ∧
          s.IsBoard pointType clubId teamId board
      else s.leaderboard pointType clubId teamId = .error (.notStored .wholeTooLarge)) ∧
    (∀ game ∈ s.games, s.ShowsPoints game.id pointType (s.pointsOf game.id pointType)) ∧
    (∀ team ∈ s.teams, ∃ board, s.leaderboard pointType none (some team.id) = .ok board ∧
      (board.map StandingView.total).sum =
        ((s.games.filter fun g => g.teamId == team.id).map fun g =>
          s.pointsOf g.id pointType).sum) ∧
    ∀ club ∈ s.clubs, ∃ board, s.leaderboard pointType (some club.id) none = .ok board ∧
      (board.map StandingView.score).Perm
        ((s.teams.filter fun team => team.clubId == club.id).flatMap fun team =>
          (found (s.leaderboard pointType none (some team.id))).map StandingView.score) := by
  refine ⟨?_, fun game hgame => h.showsPoints hgame pointType, ?_, ?_⟩
  · intro clubId teamId
    rw [leaderboard_eq h.scored]
    split
    · exact ⟨_, rfl, isBoard h.numbered h.scored pointType clubId teamId⟩
    · rfl
  · exact fun team hteam =>
      ⟨_, h.team_board hteam pointType, sum_team_board h.numbered h.scored hteam pointType⟩
  · intro club hclub
    have hfits : fitsWord club.id = true := h.inTurn.clubs.fits_id club hclub
    refine ⟨s.board pointType (some club.id) none, ?_, ?_⟩
    · rw [leaderboard_eq h.scored]
      simp [hfits]
    · refine (perm_club_board h.numbered pointType club.id).trans (List.Perm.of_eq ?_)
      refine List.flatMap_congr fun team hteam => ?_
      rw [h.team_board (List.mem_filter.mp hteam).1, found_ok]

theorem leaderboard_conserved_season :
    (after {} season).Reachable ∧
      (found ((after {} season).leaderboard .club none (some 1))).map StandingView.score =
        [(1, 22, 2)] ∧
      ((after {} season).games.map fun g => (after {} season).pointsOf g.id .club) = [10, 12] ∧
      ∀ team ∈ (after {} season).teams, ∃ board,
        (after {} season).leaderboard .club none (some team.id) = .ok board ∧
        (board.map StandingView.total).sum =
          (((after {} season).games.filter fun g => g.teamId == team.id).map fun g =>
            (after {} season).pointsOf g.id .club).sum :=
  ⟨⟨season, rfl⟩, by decide +kernel, by decide +kernel,
    (leaderboard_conserved _ ⟨season, rfl⟩ .club).2.2.1⟩

/-- A club may be asked for by a number that no club can have because it does not fit a word: then
no board is made up, not even an empty one. -/
theorem leaderboard_conserved_not_always :
    (¬∀ s : Store, s.Reachable → ∀ (pointType : PointType) (clubId teamId : Option Int),
      ∃ board, s.leaderboard pointType clubId teamId = .ok board ∧
        s.IsBoard pointType clubId teamId board) ∧
    (Store.served {} { request := {
      method := .get, path := "/leaderboard/"
      query := [("club_id", "9223372036854775808")] } }).1 = .failed := by
  constructor
  · intro h
    obtain ⟨board, hboard, -⟩ := h {} reachable_empty .team (some 9223372036854775808) none
    have hfailed : Store.leaderboard {} .team (some 9223372036854775808) none =
        .error (.notStored .wholeTooLarge) := by rfl
    rw [hfailed] at hboard
    cases hboard
  · rfl

end Store

end ClubPoints
